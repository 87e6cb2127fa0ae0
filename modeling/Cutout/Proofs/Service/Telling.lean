import Cutout.Proofs.Service.Cuts
import Cutout.Proofs.Text.Json

/-!
# What answers tell

An answer in JSON tells texts under names. Whatever the texts are, the body is read as one object with
just these members (`Http.Response.tells_json`), so what stands in a file name, in a query or in the
message of a crash cannot end its literal and begin another member. A refusal tells its text, and the
answer about the slot tells its state and its model; no request gets any other JSON
(`Service.answers_tell`).
-/

namespace Cutout

namespace Http.Response

/-- The answer is JSON, and the body is read as an object with these members and nothing else. -/
structure Tells (a : Response) (members : List (String × String)) : Prop where
  contentType : a.contentType = some "application/json"
  body : Json.ofBytes? a.body = some (.object (members.map fun m => (m.1, .string m.2)))

theorem tells_json (status : Nat) (members : List (String × String)) :
    (json status (Json.object members)).Tells members :=
  ⟨rfl, Json.ofBytes?_object members⟩

/-- An answer tells one thing only. -/
theorem Tells.unique {a : Response} {members others : List (String × String)} (h : a.Tells members)
    (h' : a.Tells others) : members = others := by
  have hvalue := Option.some.inj (h.body.symm.trans h'.body)
  have hinj : Function.Injective fun m : String × String => (m.1, Json.Value.string m.2) := by
    rintro ⟨name, text⟩ ⟨name', text'⟩ heq
    obtain ⟨hname, htext⟩ := Prod.mk.inj heq
    exact Prod.ext hname (Json.Value.string.inj htext)
  exact List.map_injective_iff.2 hinj (Json.Value.object.inj hvalue)

end Http.Response

open Http

theorem Refusal.tells_response (e : Refusal) : e.response.Tells [("error", e.message)] :=
  Response.tells_json e.status _

theorem Container.mediaType_ne_json (c : Container) : some c.mediaType ≠ some "application/json" := by
  cases c <;> decide

/-! ## What a reply can be -/

/-- The replies to a request, before its route finishes them. -/
inductive IsReplyTo [FurtherReaders] (s : Service) (r : Request) : Reply → Prop
  | declared {n : Nat} : Declares r n → s.limit < n → IsReplyTo s r (.declaredTooLong n s.limit)
  | health : r.target.path = Bytes.ofAscii "/health" → IsReplyTo s r (.quiet s.health)
  | empty {status : Nat} : status = 404 ∨ status = 405 → IsReplyTo s r (.quiet (.empty status))
  | refused {e : Refusal} : GoesThrough s r → Order.ofRequest s.slot s.limit r = .error e →
      IsReplyTo s r (.refused e)
  | filled {o : Order} : GoesThrough s r → Order.ofRequest s.slot s.limit r = .ok o →
      IsReplyTo s r o.fill

namespace Service

variable {s : Service} {r : Request}

/-- A route only finishes the response. -/
theorem exists_reply [FurtherReaders] (s : Service) (r : Request) :
    ∃ reply, IsReplyTo s r reply ∧ s.handle r = ⟨finish r reply.response, reply.log, reply.cuts⟩ := by
  cases hexcess : s.excess? r with
  | some n =>
    obtain ⟨hn, hlt⟩ := excess?_eq_some_iff.1 hexcess
    refine ⟨_, .declared hn hlt, ?_⟩
    unfold handle
    rw [hexcess]
  | none =>
    have hhandle : s.handle r = ⟨finish r (s.route r).response, (s.route r).log, (s.route r).cuts⟩ := by
      unfold handle
      rw [hexcess]
    refine ⟨s.route r, ?_, hhandle⟩
    by_cases hhealth : r.target.path = Bytes.ofAscii "/health"
    · unfold route
      rw [Route.ofPath?_health hhealth]
      simp only [serve]
      split
      · exact .health hhealth
      · exact .empty (.inr rfl)
    by_cases hremoval : r.target.path = Bytes.ofAscii "/remove-bg"
    · by_cases hmethod : r.method = "POST"
      · have hthrough : GoesThrough s r := ⟨hexcess, hremoval, hmethod⟩
        rw [route_removal hremoval hmethod]
        unfold remove
        cases ho : Order.ofRequest s.slot s.limit r with
        | error e => exact .refused hthrough ho
        | ok o => exact .filled hthrough ho
      · have hother : Route.removal.methods.contains r.method = false := by
          simpa [Route.methods] using hmethod
        unfold route
        rw [Route.ofPath?_removal hremoval]
        simp only [hother]
        exact .empty (.inr rfl)
    · unfold route
      rw [Route.ofPath?_none hhealth hremoval]
      exact .empty (.inl rfl)

@[simp] theorem finish_contentType (r : Request) (a : Response) :
    (finish r a).contentType = a.contentType := by
  unfold finish
  split
  · rfl
  · split
    · rfl
    · split <;> rfl

/-- What an answer tells is left alone unless only the headers are asked for. -/
theorem tells_finish {a : Response} {members : List (String × String)}
    (h : a.Tells members) (hmethod : r.method ≠ "HEAD") : (finish r a).Tells members := by
  refine ⟨?_, ?_⟩
  · rw [finish_contentType, h.contentType]
  · rw [finish_body hmethod, h.body]

/-! ## The answer about the slot -/

theorem tells_health (s : Service) :
    s.health.Tells [("status", s.slot.status), ("model", s.slot.model)] :=
  Response.tells_json _ _

/-- The state in the answer about the slot is the one that its status stands for. -/
theorem health_status (s : Service) :
    (s.health.status = 200 ∧ s.slot.status = "ok") ∨
      (s.health.status = 503 ∧ s.slot.status = "loading") := by
  unfold health Slot.status
  cases s.slot.isReady
  · exact .inr ⟨rfl, rfl⟩
  · exact .inl ⟨rfl, rfl⟩

/-! ## What requests are told -/

/-- An order is answered with a file or with a refusal. -/
theorem fill_response [FurtherReaders] (o : Order) :
    (∃ e : Refusal, o.fill.response = e.response) ∨
      ∃ image, o.fill.response = .file o.into.mediaType o.into.fileName image := by
  cases hname : o.cutter.name with
  | error crash =>
    rw [Order.fill_of_crash hname]
    exact .inl ⟨.internal, rfl⟩
  | ok name =>
    cases hprocess : o.cutter.process o.upload.content o.into with
    | error m =>
      rw [Order.fill_of_mishap hname hprocess]
      exact .inl ⟨.failed m.message, rfl⟩
    | ok image =>
      rw [Order.fill_of_image hname hprocess]
      exact .inr ⟨image, rfl⟩

/-- A reply in JSON is a refusal, or it is about the slot. -/
theorem json_of_isReplyTo [FurtherReaders] {reply : Reply} (h : IsReplyTo s r reply)
    (hjson : reply.response.contentType = some "application/json") :
    (∃ e : Refusal, reply.response = e.response) ∨
      (r.target.path = Bytes.ofAscii "/health" ∧ reply.response = s.health) := by
  cases h with
  | declared => exact .inl ⟨.tooLarge, rfl⟩
  | health hpath => exact .inr ⟨hpath, rfl⟩
  | empty => cases hjson
  | @refused e => exact .inl ⟨e, rfl⟩
  | @filled o =>
    rcases fill_response o with hrefusal | ⟨image, hfile⟩
    · exact .inl hrefusal
    · rw [hfile] at hjson
      exact absurd hjson o.into.mediaType_ne_json

/-- **Answers tell their texts, and nothing else.** A refusal is one object with the member `error`,
whose text is the one of the refusal, whatever a client or a cutter has put into it. The answer about
the slot is one object with its state and the name of its model. A request that does not ask for the
headers only gets no other JSON than these. -/
theorem answers_tell [FurtherReaders] :
    (∀ e : Refusal, e.response.status = e.status ∧ e.response.Tells [("error", e.message)]) ∧
      (∀ s : Service, ∃ word, s.health.Tells [("status", word), ("model", s.slot.model)] ∧
        (word = "ok" ↔ s.health.status = 200) ∧ (word = "loading" ↔ s.health.status = 503)) ∧
      ∀ (s : Service) (r : Request), r.method ≠ "HEAD" →
        (s.handle r).response.contentType = some "application/json" →
          (∃ e : Refusal, (s.handle r).response.status = e.status ∧
            (s.handle r).response.Tells [("error", e.message)]) ∨
          (r.target.path = Bytes.ofAscii "/health" ∧
            (s.handle r).response.status = s.health.status ∧
            (s.handle r).response.Tells [("status", s.slot.status), ("model", s.slot.model)]) := by
  refine ⟨fun e => ⟨rfl, e.tells_response⟩, ?_, ?_⟩
  · intro s
    refine ⟨s.slot.status, tells_health s, ?_⟩
    rcases health_status s with ⟨hstatus, hword⟩ | ⟨hstatus, hword⟩
    · simp [hstatus, hword]
    · simp [hstatus, hword]
  · intro s r hmethod hjson
    obtain ⟨reply, hreply, heq⟩ := exists_reply s r
    rw [heq] at hjson ⊢
    rw [finish_contentType] at hjson
    rw [finish_status]
    rcases json_of_isReplyTo hreply hjson with ⟨e, hrefusal⟩ | ⟨hpath, hhealth⟩
    · rw [hrefusal]
      exact .inl ⟨e, rfl, tells_finish e.tells_response hmethod⟩
    · rw [hhealth]
      exact .inr ⟨hpath, rfl, tells_finish (tells_health s) hmethod⟩

/-- A model whose name would end its literal, and a container whose name would, are told as they are. -/
theorem answers_tell_quotes :
    let s : Service := ⟨.loading "u2net\",\"status\":\"ok", 0⟩
    let e : Refusal := .unknownContainer ⟨"gif\"\x7d\n"⟩
    let r : Request := ⟨"GET", ⟨Bytes.ofAscii "/health", none⟩, [], []⟩
    e.response.Tells [("error", "Unsupported output format: gif\"\x7d\n. Use png or webp.")] ∧
      (s.handle r).response.status = 503 ∧
      (s.handle r).response.Tells [("status", "loading"), ("model", "u2net\",\"status\":\"ok")] := by
  intro s e r
  obtain ⟨hrefusals, -, hrequests⟩ := answers_tell
  rcases hrequests s r (by decide) rfl with ⟨e', hstatus, htells⟩ | ⟨-, hstatus, htells⟩
  · have hmembers := htells.unique (tells_health s)
    exact absurd hmembers (by simp)
  · exact ⟨(hrefusals e).2, hstatus, htells⟩

end Service

end Cutout
