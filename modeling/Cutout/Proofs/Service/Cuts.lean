import Cutout.Proofs.Service.Decision

/-!
# What a request gives to the cutter

A request that is handled gives the cutter one file or none. Which of the two it was can be seen from
the answer: the service answers with an image, or says that cutting out went wrong, just if a file was
given away (`length_cuts`). The file is the upload that the request carries, and the cutter is the one
in the slot (`cut_of_mem`).

That the reply notes every cut is shown from the outside: a cutter that would answer otherwise to any
other file than those in the note leads to the same reply (`handle_withCut`).
-/

namespace Cutout

open Http

/-! ## Answers that tell of a cut -/

namespace Http.Response

/-- The answer is an image. -/
def isImage (a : Response) : Bool :=
  a.status == 200 && [some "image/png", some "image/webp"].contains a.contentType

/-- The answer says that cutting out went wrong. -/
def saysFailed (a : Response) : Bool :=
  a.status == 500 && Bytes.startsWith a.body (Bytes.ofText "\x7b\"error\":\"Processing failed: ")

/-- The answer tells that a file was given to a cutter. -/
def tellsOfCut (a : Response) : Bool :=
  a.isImage || a.saysFailed

theorem tellsOfCut_file (into : Container) (image : Bytes) :
    (Response.file into.mediaType into.fileName image).tellsOfCut = true := by
  cases into <;> rfl

/-- An answer without an image that is not the one to a failure tells of no cut. -/
theorem tellsOfCut_eq_false {a : Response} (hstatus : a.status ≠ 500)
    (htype : a.contentType = none ∨ a.contentType = some "application/json") :
    a.tellsOfCut = false := by
  unfold tellsOfCut isImage saysFailed
  rcases htype with htype | htype <;> simp [htype, hstatus]

end Http.Response

namespace Refusal

/-- The object that gives a reason, spelled out. -/
theorem toList_object (reason : String) :
    (Json.object [("error", reason)]).toList =
      "\x7b\"error\":\"".toList ++ (reason.toList.flatMap Json.escapeChar ++ ['"', '\x7d']) := by
  have hname : Json.string "error" = "\"error\"".toList := by decide
  have hlead : "\x7b\"error\":\"".toList = ['\x7b'] ++ "\"error\"".toList ++ [':', '"'] := by decide
  unfold Json.object Json.field
  rw [String.toList_ofList, hlead]
  simp only [List.map_cons, List.map_nil, hname]
  simp [List.intercalate, Json.string]

theorem tellsOfCut_internal : internal.response.tellsOfCut = false := by decide

/-- The text of a failed cut has no escapes at its beginning, whatever its details are. -/
theorem tellsOfCut_failed (detail : String) : (failed detail).response.tellsOfCut = true := by
  have hescape : "Processing failed: ".toList.flatMap Json.escapeChar =
      "Processing failed: ".toList := by decide
  have hreason : ("Processing failed: " ++ detail).toList.flatMap Json.escapeChar =
      "Processing failed: ".toList ++ detail.toList.flatMap Json.escapeChar := by
    rw [String.toList_append, List.flatMap_append, hescape]
  have hlead : "\x7b\"error\":\"Processing failed: ".toList =
      "\x7b\"error\":\"".toList ++ "Processing failed: ".toList := by decide
  obtain ⟨rest, hrest⟩ : ∃ rest, (failed detail).response.body =
      Bytes.ofText "\x7b\"error\":\"Processing failed: " ++ rest := by
    refine ⟨(detail.toList.flatMap Json.escapeChar ++ ['"', '\x7d']).flatMap String.utf8EncodeChar, ?_⟩
    have hmessage : (failed detail).message = "Processing failed: " ++ detail := rfl
    unfold response Response.json Bytes.ofText
    rw [hmessage, toList_object, hreason, hlead]
    simp only [List.flatMap_append, List.append_assoc]
  have hbody : Bytes.startsWith (failed detail).response.body
      (Bytes.ofText "\x7b\"error\":\"Processing failed: ") = true := by
    unfold Bytes.startsWith
    rw [hrest, Bytes.after?_append]
    rfl
  have hstatus : (failed detail).response.status = 500 := rfl
  simp [Response.tellsOfCut, Response.saysFailed, hbody, hstatus]

end Refusal

/-! ## Filling an order -/

/-- A cutter with another way to cut. -/
def Cutter.withCut (c : Cutter) (f : Bytes → Except Mishap Bytes) : Cutter :=
  { c with cut := f }

theorem Cutter.process_withCut [FurtherReaders] {c : Cutter} {f : Bytes → Except Mishap Bytes}
    {file : Bytes} {into : Container} (h : f file = c.cut file) :
    (c.withCut f).process file into = c.process file into := by
  show (f file).bind into.repack = (c.cut file).bind into.repack
  rw [h]

namespace Order

open Cutter (process_withCut)

variable {o : Order}

/-- An order is filled by giving its file to its cutter, if the cutter has a name. -/
theorem fill_cuts [FurtherReaders] (o : Order) :
    (o.fill.cuts = [] ∧ o.fill.response = Refusal.internal.response) ∨
      (o.fill.cuts = [⟨o.cutter, o.upload.content⟩] ∧ o.fill.response.tellsOfCut = true ∧
        (o.fill.response.status = 200 ∨ o.fill.response.status = 500)) := by
  cases hname : o.cutter.name with
  | error crash =>
    rw [fill_of_crash hname]
    exact .inl ⟨rfl, rfl⟩
  | ok name =>
    cases hprocess : o.cutter.process o.upload.content o.into with
    | error m =>
      rw [fill_of_mishap hname hprocess]
      exact .inr ⟨rfl, Refusal.tellsOfCut_failed m.message, .inr rfl⟩
    | ok image =>
      rw [fill_of_image hname hprocess]
      exact .inr ⟨rfl, Response.tellsOfCut_file o.into image, .inl rfl⟩

/-- The same order for a cutter that cuts in another way. -/
def withCut (o : Order) (f : Bytes → Except Mishap Bytes) : Order :=
  ⟨o.toDraft, o.cutter.withCut f⟩

/-- What becomes of an order depends on its cutter by the name, and by what it makes of the file. -/
theorem fill_withCut [FurtherReaders] {f : Bytes → Except Mishap Bytes}
    (h : ∀ cut ∈ o.fill.cuts, f cut.file = cut.cutter.cut cut.file) :
    (o.withCut f).fill.response = o.fill.response ∧ (o.withCut f).fill.log = o.fill.log := by
  cases hname : o.cutter.name with
  | error crash =>
    have hother := fill_of_crash (o := o.withCut f) hname
    rw [hother, fill_of_crash hname]
    exact ⟨rfl, rfl⟩
  | ok name =>
    have hname' : (o.withCut f).cutter.name = .ok name := hname
    cases hprocess : o.cutter.process o.upload.content o.into with
    | error m =>
      have hfill := fill_of_mishap hname hprocess
      have hfile := h ⟨o.cutter, o.upload.content⟩ (by rw [hfill]; exact List.mem_cons_self)
      rw [fill_of_mishap hname' ((process_withCut hfile).trans hprocess), hfill]
      exact ⟨rfl, rfl⟩
    | ok image =>
      have hfill := fill_of_image hname hprocess
      have hfile := h ⟨o.cutter, o.upload.content⟩ (by rw [hfill]; exact List.mem_cons_self)
      rw [fill_of_image hname' ((process_withCut hfile).trans hprocess), hfill]
      exact ⟨rfl, rfl⟩

/-- An order is made of an upload, a container, and the cutter in the slot. -/
theorem ofRequest_eq_ok_iff {slot : Slot} {limit : Nat} {r : Request} :
    ofRequest slot limit r = .ok o ↔
      uploadOf limit r = .ok o.upload ∧ containerOf r = .ok o.into ∧ slot.cutter = some o.cutter := by
  obtain ⟨⟨upload, container⟩, cutter⟩ := o
  unfold ofRequest draft
  cases uploadOf limit r with
  | error e => simp [bind, Except.bind]
  | ok u =>
    cases containerOf r with
    | error e => simp [bind, Except.bind]
    | ok into => cases slot.cutter <;> simp [bind, Except.bind, pure, Except.pure, place, and_assoc]

/-- An order comes from an upload with a name, a container that is offered, and the cutter in the
slot. -/
theorem ofRequest_eq_ok {slot : Slot} {limit : Nat} {r : Request}
    (h : ofRequest slot limit r = .ok o) :
    Carries limit r (some o.upload) ∧ o.upload.name ≠ "" ∧ slot.cutter = some o.cutter := by
  obtain ⟨hu, -, hslot⟩ := ofRequest_eq_ok_iff.1 h
  obtain ⟨hcarries, hname⟩ := uploadOf_eq_ok_iff.1 hu
  exact ⟨hcarries, hname, hslot⟩

theorem uploadOf_error_status {limit : Nat} {r : Request} {e : Refusal}
    (h : uploadOf limit r = .error e) : e.status ≠ 500 := by
  have hsame : ∀ {e'}, uploadOf limit r = .error e' → e' = e :=
    fun h' => Except.error.inj (h'.symm.trans h)
  rcases carries_cases limit r with hb | ⟨boundary, hb, ho | hoff | ⟨f, hf⟩⟩ | ⟨u, hu⟩
  · obtain rfl := hsame (uploadOf_of_not_dividesBy hb limit)
    decide
  · obtain rfl := hsame (uploadOf_of_overruns hb ho)
    decide
  · obtain rfl := hsame (uploadOf_of_breaksOff hb hoff)
    decide
  · obtain rfl := hsame (uploadOf_of_shows hb hf)
    exact Nat.ne_of_beq_eq_false rfl
  · cases u with
    | none =>
      obtain rfl := hsame (uploadOf_of_carries_none hu)
      decide
    | some u =>
      rw [uploadOf_of_carries_some hu] at h
      split at h
      · obtain rfl := Except.error.inj h
        decide
      · cases h

/-- What keeps a request from becoming an order is no failure of the service. -/
theorem ofRequest_error_status {slot : Slot} {limit : Nat} {r : Request} {e : Refusal}
    (h : ofRequest slot limit r = .error e) : e.status ≠ 500 := by
  unfold ofRequest draft at h
  cases hu : uploadOf limit r with
  | error e' =>
    rw [hu] at h
    obtain rfl : e' = e := Except.error.inj h
    exact uploadOf_error_status hu
  | ok u =>
    rcases asksFor_or_unknown r with ⟨into, hinto⟩ | ⟨v, hv, hunknown⟩
    · simp only [hu, containerOf_eq_ok_iff.2 hinto, bind, Except.bind, pure, Except.pure] at h
      cases hslot : slot.cutter with
      | none =>
        rw [hslot] at h
        obtain rfl : Refusal.loading = e := Except.error.inj h
        decide
      | some c =>
        rw [hslot] at h
        cases h
    · simp only [hu, containerOf_of_unknown hv hunknown, bind, Except.bind] at h
      obtain rfl := Except.error.inj h
      exact Nat.ne_of_beq_eq_false rfl

end Order

/-! ## Handling a request -/

/-- A reply that no cutter has to do with. -/
structure IsAside (reply : Reply) : Prop where
  cuts : reply.cuts = []
  status : reply.response.status ≠ 500
  contentType : reply.response.contentType = none ∨
    reply.response.contentType = some "application/json"

/-- A request that gets to the removal. -/
structure GoesThrough (s : Service) (r : Request) : Prop where
  length : s.excess? r = none
  path : r.target.path = Bytes.ofAscii "/remove-bg"
  method : r.method = "POST"

theorem IsAside.tellsOfCut {reply : Reply} (h : IsAside reply) :
    reply.response.tellsOfCut = false :=
  Response.tellsOfCut_eq_false h.status h.contentType

theorem isAside_refused {e : Refusal} (h : e.status ≠ 500) : IsAside (.refused e) :=
  ⟨rfl, h, .inr rfl⟩

theorem isAside_empty {status : Nat} (h : status ≠ 500) : IsAside (.quiet (.empty status)) :=
  ⟨rfl, h, .inl rfl⟩

namespace Service

variable {s : Service} {r : Request}

/-- The service with a cutter that cuts in another way. -/
def withCut (s : Service) (f : Bytes → Except Mishap Bytes) : Service :=
  { s with slot := { s.slot with cutter := s.slot.cutter.map (·.withCut f) } }

theorem health_withCut (s : Service) (f : Bytes → Except Mishap Bytes) :
    (s.withCut f).health = s.health := by
  have hready : (s.withCut f).slot.isReady = s.slot.isReady := by
    unfold Slot.isReady withCut
    rw [Option.isSome_map]
  unfold health Slot.status
  rw [hready]
  rfl

theorem isAside_health (s : Service) : IsAside (.quiet s.health) := by
  refine ⟨rfl, ?_, .inr rfl⟩
  show (if s.slot.isReady then 200 else 503) ≠ 500
  split <;> decide

theorem isAside_finish {reply : Reply} (h : IsAside reply) (r : Request) :
    IsAside { reply with response := finish r reply.response } := by
  have htype : (finish r reply.response).contentType = reply.response.contentType := by
    unfold finish
    split
    · rfl
    · split
      · rfl
      · split <;> rfl
  refine ⟨h.cuts, ?_, ?_⟩
  · show (finish r reply.response).status ≠ 500
    rw [finish_status]
    exact h.status
  · show (finish r reply.response).contentType = none ∨ _
    rw [htype]
    exact h.contentType

/-- Only a request with the method of the removal, on its path, is not answered aside. -/
theorem route_aside [FurtherReaders]
    (h : ¬ (r.target.path = Bytes.ofAscii "/remove-bg" ∧ r.method = "POST")) :
    IsAside (s.route r) ∧ ∀ f, (s.withCut f).route r = s.route r := by
  unfold Service.route
  by_cases hhealth : r.target.path = Bytes.ofAscii "/health"
  · rw [Route.ofPath?_health hhealth]
    simp only [serve]
    split
    · exact ⟨isAside_health s, fun f => congrArg Reply.quiet (health_withCut s f)⟩
    · exact ⟨isAside_empty (by decide), fun f => rfl⟩
  by_cases hremoval : r.target.path = Bytes.ofAscii "/remove-bg"
  · have hmethod : Route.removal.methods.contains r.method = false := by
      have hpost : r.method ≠ "POST" := fun hpost => h ⟨hremoval, hpost⟩
      simpa [Route.methods] using hpost
    rw [Route.ofPath?_removal hremoval]
    simp only [hmethod]
    exact ⟨isAside_empty (by decide), fun f => rfl⟩
  · rw [Route.ofPath?_none hhealth hremoval]
    exact ⟨isAside_empty (by decide), fun f => rfl⟩

/-- A request that does not get to the removal is answered without the cutter. -/
theorem handle_of_not_goesThrough [FurtherReaders] (h : ¬ GoesThrough s r) :
    IsAside (s.handle r) ∧ ∀ f, (s.withCut f).handle r = s.handle r := by
  have hexcess : ∀ f, (s.withCut f).excess? r = s.excess? r := fun f => rfl
  unfold handle
  cases hn : s.excess? r with
  | some n =>
    have hstatus : Refusal.tooLarge.status ≠ 500 := by decide
    have haside : IsAside (Reply.declaredTooLong n s.limit) := ⟨rfl, hstatus, .inr rfl⟩
    refine ⟨isAside_finish haside r, fun f => ?_⟩
    rw [hexcess f, hn]
    rfl
  | none =>
    have hroute : ¬ (r.target.path = Bytes.ofAscii "/remove-bg" ∧ r.method = "POST") :=
      fun hboth => h ⟨hn, hboth.1, hboth.2⟩
    obtain ⟨haside, hsame⟩ := route_aside (s := s) hroute
    refine ⟨isAside_finish haside r, fun f => ?_⟩
    rw [hexcess f, hn]
    simp only [hsame f]

theorem finish_of_goesThrough (h : GoesThrough s r) (a : Response) : finish r a = a := by
  unfold finish
  rw [Route.ofPath?_removal h.path, h.method]
  rfl

/-- A request that gets to the removal is answered by it, and nothing is added to the answer. -/
theorem handle_of_goesThrough [FurtherReaders] (h : GoesThrough s r) : s.handle r = s.remove r := by
  unfold handle
  rw [h.length]
  simp only [route_removal h.path h.method, finish_of_goesThrough h]

/-- **What a request leads to**: a reply that no cutter has to do with, or the filling of an order for
its upload and the cutter in the slot. -/
theorem handle_cases [FurtherReaders] (s : Service) (r : Request) :
    IsAside (s.handle r) ∨
      ∃ o : Order, GoesThrough s r ∧ Carries s.limit r (some o.upload) ∧ o.upload.name ≠ "" ∧
        s.slot.cutter = some o.cutter ∧ s.handle r = o.fill := by
  by_cases h : GoesThrough s r
  · rw [handle_of_goesThrough h]
    unfold remove
    cases ho : Order.ofRequest s.slot s.limit r with
    | error e => exact .inl (isAside_refused (Order.ofRequest_error_status ho))
    | ok o =>
      obtain ⟨hcarries, hname, hslot⟩ := Order.ofRequest_eq_ok ho
      exact .inr ⟨o, h, hcarries, hname, hslot, rfl⟩
  · exact .inl (handle_of_not_goesThrough h).1

/-- **A file is given to the cutter just if the answer tells of it**, and then once. -/
theorem length_cuts [FurtherReaders] (s : Service) (r : Request) :
    (s.handle r).cuts.length = if (s.handle r).response.tellsOfCut then 1 else 0 := by
  rcases handle_cases s r with haside | ⟨o, -, -, -, -, heq⟩
  · rw [haside.cuts, haside.tellsOfCut]
    rfl
  · rw [heq]
    rcases o.fill_cuts with ⟨hcuts, hresponse⟩ | ⟨hcuts, htells, -⟩
    · rw [hcuts, hresponse, Refusal.tellsOfCut_internal]
      rfl
    · rw [hcuts, htells]
      rfl

/-- What is given away is the upload, and the cutter that gets it is the one in the slot. -/
theorem cut_of_mem [FurtherReaders] {cut : Cut} (h : cut ∈ (s.handle r).cuts) :
    s.slot.cutter = some cut.cutter ∧
      ∃ u, Carries s.limit r (some u) ∧ u.name ≠ "" ∧ cut.file = u.content := by
  rcases handle_cases s r with haside | ⟨o, -, hcarries, hname, hslot, heq⟩
  · rw [haside.cuts] at h
    cases h
  · rw [heq] at h
    rcases o.fill_cuts with ⟨hcuts, -⟩ | ⟨hcuts, -, -⟩
    · rw [hcuts] at h
      cases h
    · rw [hcuts, List.mem_singleton] at h
      subst h
      exact ⟨hslot, o.upload, hcarries, hname, rfl⟩

/-- Refusals, answers about the slot and the answer to a crash outside of the cut come without one. -/
theorem cuts_eq_nil [FurtherReaders] (h : (s.handle r).response.status ∈ [400, 404, 405, 413, 503] ∨
      r.target.path = Bytes.ofAscii "/health" ∨
        (s.handle r).response = problem 500 "Internal server error.") :
    (s.handle r).cuts = [] := by
  rcases handle_cases s r with haside | ⟨o, hthrough, -, -, -, heq⟩
  · exact haside.cuts
  · rw [heq] at h ⊢
    rcases o.fill_cuts with ⟨hcuts, -⟩ | ⟨-, htells, hstatus⟩
    · exact hcuts
    · exfalso
      rcases h with hother | hhealth | hinternal
      · rcases hstatus with hstatus | hstatus <;> rw [hstatus] at hother <;>
          exact absurd hother (by decide)
      · rw [hthrough.path] at hhealth
        exact absurd hhealth (by decide)
      · have hinternal : o.fill.response = Refusal.internal.response := hinternal
        rw [hinternal, Refusal.tellsOfCut_internal] at htells
        cases htells

/-- **A reply notes everything that it owes to the cutter**: another cutter with the same name that
makes the same of the files in the note, whatever it makes of others, leads to the same answer. -/
theorem handle_withCut [FurtherReaders] {f : Bytes → Except Mishap Bytes}
    (h : ∀ cut ∈ (s.handle r).cuts, f cut.file = cut.cutter.cut cut.file) :
    ((s.withCut f).handle r).response = (s.handle r).response ∧
      ((s.withCut f).handle r).log = (s.handle r).log := by
  by_cases hthrough : GoesThrough s r
  · have hthrough' : GoesThrough (s.withCut f) r := ⟨hthrough.length, hthrough.path, hthrough.method⟩
    rw [handle_of_goesThrough hthrough] at h ⊢
    rw [handle_of_goesThrough hthrough']
    unfold remove Order.ofRequest at h ⊢
    have hlimit : (s.withCut f).limit = s.limit := rfl
    have hcutter : (s.withCut f).slot.cutter = s.slot.cutter.map (·.withCut f) := rfl
    rw [hlimit, hcutter]
    cases hd : Order.draft s.limit r with
    | error e => exact ⟨rfl, rfl⟩
    | ok d =>
      cases hslot : s.slot.cutter with
      | none => exact ⟨rfl, rfl⟩
      | some c =>
        rw [hd, hslot] at h
        exact Order.fill_withCut (o := ⟨d, c⟩) h
  · have hsame := (handle_of_not_goesThrough hthrough).2 f
    rw [hsame]
    exact ⟨rfl, rfl⟩

end Service

end Cutout
