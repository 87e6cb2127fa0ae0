import Cutout.Proofs.Codec.Png
import Cutout.Proofs.Http.Query
import Cutout.Proofs.Service.Telling
import Cutout.Proofs.Service.Upload
import Cutout.Proofs.Text.Lower

/-!
# The container that a client chooses

A client chooses a container by the first pair `format` of its query, in any letter case of ASCII, and
by leaving it out. However the pairs are written, the service takes the same choice from them, and it
is the same in the three places of an answer that tell of it: the first bytes of the file, its media
type, and its name (`Service.handle_negotiated`).
-/

namespace Cutout

open Http

/-! ## The choice -/

/-- A list of pairs chooses a container. -/
def Chooses (ps : List (String × String)) (into : Container) : Prop :=
  ((∀ p ∈ ps, p.1 ≠ "format") ∧ into = .png) ∨
    ∃ p, FirstWith (fun q => q.1 = "format") ps p ∧ Text.asciiLower p.2 = into.name

/-- The target of a request is the path for results, with these pairs in its query. -/
inductive AsksWith : Target → List (String × String) → Prop
  | bare : AsksWith (.ofBytes (Bytes.ofAscii "/remove-bg")) []
  | query {ps : List (String × String)} {query : Bytes} : Query.Writes ps query →
      AsksWith (.ofBytes (Bytes.ofAscii "/remove-bg" ++ 63 :: query)) ps

namespace AsksWith

variable {t : Target} {ps : List (String × String)}

theorem ofBytes_eq {query : Bytes} (h : Query.Writes ps query) :
    Target.ofBytes (Bytes.ofAscii "/remove-bg" ++ 63 :: query) =
      ⟨Bytes.ofAscii "/remove-bg", some query⟩ :=
  Target.ofBytes_query (Bytes.ofAscii "remove-bg") (by decide +kernel) (Query.notMem_of_writes h)

theorem path_eq (h : AsksWith t ps) : t.path = Bytes.ofAscii "/remove-bg" := by
  cases h with
  | bare => rfl
  | query hq => exact congrArg Target.path (ofBytes_eq hq)

/-- The pairs are read as they were. -/
theorem pairs_eq (h : AsksWith t ps) : Query.pairs (t.query.getD []) = ps := by
  cases h with
  | bare => rfl
  | query hq =>
    rw [ofBytes_eq hq]
    exact Query.pairs_of_writes hq

end AsksWith

theorem hasValue_iff {r : Request} {ps : List (String × String)} (h : AsksWith r.target ps)
    {key v : String} :
    HasValue r key v ↔ ∃ p, FirstWith (fun q => q.1 = key) ps p ∧ p.2 = v := by
  unfold HasValue
  rw [h.pairs_eq]

/-- A request asks for the container that its pairs choose. -/
theorem asksFor_iff_chooses {r : Request} {ps : List (String × String)} (h : AsksWith r.target ps)
    (into : Container) : AsksFor r into ↔ Chooses ps into := by
  unfold AsksFor Chooses
  refine or_congr (and_congr_left fun _ => ?_) ?_
  · constructor
    · intro hnone p hp hkey
      -- the first pair with the key is one of them
      cases hfind : ps.find? fun q => q.1 == "format" with
      | none =>
        have hother := List.find?_eq_none.1 hfind p hp
        exact hother (beq_iff_eq.2 hkey)
      | some q =>
        have hq := find?_eq_some_iff_firstWith.1 hfind
        simp only [beq_iff_eq] at hq
        exact hnone q.2 ((hasValue_iff h).2 ⟨q, hq, rfl⟩)
    · intro hnone v hv
      obtain ⟨p, hp, -⟩ := (hasValue_iff h).1 hv
      obtain ⟨front, rest, rfl, -⟩ := hp.first
      exact hnone p (by simp) hp.holds
  · constructor
    · rintro ⟨v, hv, hname⟩
      obtain ⟨p, hp, rfl⟩ := (hasValue_iff h).1 hv
      exact ⟨p, hp, (into.lowercase_eq_name_iff _).1 hname⟩
    · rintro ⟨p, hp, hname⟩
      exact ⟨p.2, (hasValue_iff h).2 ⟨p, hp, rfl⟩, (into.lowercase_eq_name_iff _).2 hname⟩

/-! ## Answers that name a container -/

/-- The format of the files of a container. -/
def Container.format : Container → ImageFormat
  | png => .png
  | webp => .webp

/-- An answer is a file of a container, and says so. -/
structure Delivers (a : Response) (into : Container) : Prop where
  content : ImageFormat.sniff a.body = some into.format
  contentType : a.contentType = some ("image/" ++ into.name)
  disposition : a.disposition = some ("inline; filename=\"result." ++ into.name ++ "\"")

/-- What is written into a container begins like one of its files. -/
theorem Container.sniff_encode {into : Container} {r : Raster (Rgba UInt8)} {b : Bytes}
    (h : into.encode r = .ok b) : ImageFormat.sniff b = some into.format := by
  cases into with
  | png => exact Png.sniff_encode (encode_png_eq_ok.1 h)
  | webp =>
    change Webp.encode r = .ok b at h
    unfold Webp.encode at h
    split at h
    · cases h
    · rw [← Except.ok.inj h]
      rfl

/-- What comes of a cutter begins like a file of the container that it was to be written into. -/
theorem Cutter.sniff_process [FurtherReaders] {c : Cutter} {file image : Bytes} {into : Container}
    (h : c.process file into = .ok image) : ImageFormat.sniff image = some into.format := by
  have hprocess : (c.cut file).bind into.repack = .ok image := h
  cases hcut : c.cut file with
  | error m =>
    rw [hcut] at hprocess
    cases hprocess
  | ok answer =>
    rw [hcut] at hprocess
    simp only [Except.bind, Container.repack, bind] at hprocess
    cases hstored : readStored answer with
    | error f =>
      rw [hstored] at hprocess
      cases hprocess
    | ok picture =>
      rw [hstored] at hprocess
      cases hencode : into.encode picture with
      | error f =>
        simp only [Except.mapError, hencode] at hprocess
        cases hprocess
      | ok b =>
        simp only [Except.mapError, hencode] at hprocess
        rw [← Except.ok.inj hprocess]
        exact Container.sniff_encode hencode

/-- An order that is filled with a file is filled with one of its container. -/
theorem Order.fill_delivers [FurtherReaders] {o : Order} (h : o.fill.response.status = 200) :
    Delivers o.fill.response o.into := by
  cases hname : o.cutter.name with
  | error crash =>
    rw [fill_of_crash hname] at h
    cases h
  | ok name =>
    cases hprocess : o.cutter.process o.upload.content o.into with
    | error m =>
      rw [fill_of_mishap hname hprocess] at h
      cases h
    | ok image =>
      rw [fill_of_image hname hprocess]
      refine ⟨Cutter.sniff_process hprocess, rfl, ?_⟩
      have hfile : "inline; filename=\"" ++ ("result." ++ o.into.name) ++ "\"" =
          "inline; filename=\"result." ++ o.into.name ++ "\"" := by
        rw [← String.append_assoc]
        rfl
      exact congrArg some hfile

/-! ## What a client gets -/

/-- A request uploads a file to a service with a cutter, and writes pairs into its query. -/
structure UploadsWith (s : Service) (r : Request) (ps : List (String × String)) (u : Multipart.Upload)
    (c : Cutter) : Prop where
  method : r.method = "POST"
  target : AsksWith r.target ps
  within : ∀ n, Declares r n → n ≤ s.limit
  carries : Carries s.limit r (some u)
  named : u.name ≠ ""
  cutter : s.slot.cutter = some c

namespace UploadsWith

variable {s : Service} {r : Request} {ps : List (String × String)} {u : Multipart.Upload} {c : Cutter}

theorem goesThrough (h : UploadsWith s r ps u c) : GoesThrough s r := by
  refine ⟨?_, h.target.path_eq, h.method⟩
  cases hexcess : s.excess? r with
  | none => rfl
  | some n =>
    obtain ⟨hn, hlt⟩ := Service.excess?_eq_some_iff.1 hexcess
    exact absurd (h.within n hn) (Nat.not_le.2 hlt)

theorem uploadOf_eq (h : UploadsWith s r ps u c) : Order.uploadOf s.limit r = .ok u :=
  Order.uploadOf_eq_ok_iff.2 ⟨h.carries, h.named⟩

theorem handle_eq [FurtherReaders] (h : UploadsWith s r ps u c) {into : Container}
    (hinto : Chooses ps into) :
    s.handle r = Order.fill ⟨⟨u, into⟩, c⟩ := by
  have hcontainer : Order.containerOf r = .ok into :=
    Order.containerOf_eq_ok_iff.2 ((asksFor_iff_chooses h.target into).2 hinto)
  rw [Service.handle_of_goesThrough h.goesThrough, Service.remove_of_draft h.uploadOf_eq hcontainer,
    h.cutter]

theorem handle_of_unknown [FurtherReaders] (h : UploadsWith s r ps u c) {p : String × String}
    (hp : FirstWith (fun q => q.1 = "format") ps p)
    (hother : ∀ into : Container, Text.asciiLower p.2 ≠ into.name) :
    s.handle r = .refused (.unknownContainer ⟨Text.lowercase p.2⟩) := by
  have hunknown := Order.containerOf_of_unknown ((hasValue_iff h.target).2 ⟨p, hp, rfl⟩)
    fun into hinto => hother into ((into.lowercase_eq_name_iff _).1 hinto)
  have horder : Order.ofRequest s.slot s.limit r =
      .error (.unknownContainer ⟨Text.lowercase p.2⟩) := by
    unfold Order.ofRequest Order.draft
    rw [h.uploadOf_eq]
    simp only [bind, Except.bind, hunknown]
  rw [Service.handle_of_goesThrough h.goesThrough, Service.remove, horder]

end UploadsWith

namespace Service

/-- An answer with the status of success is about the slot, or a file of the container that the request
asks for. -/
theorem delivers_of_success [FurtherReaders] {s : Service} {r : Request}
    (h : (s.handle r).response.status = 200)
    (hpath : r.target.path ≠ Bytes.ofAscii "/health") :
    ∃ into, AsksFor r into ∧ Delivers (s.handle r).response into := by
  obtain ⟨reply, hreply, heq⟩ := exists_reply s r
  rw [heq, finish_status] at h
  cases hreply with
  | declared => cases h
  | health hhealth => exact absurd hhealth hpath
  | empty hstatus =>
    rcases hstatus with rfl | rfl
    · cases h
    · cases h
  | @refused e => cases e <;> cases h
  | @filled o hthrough ho =>
    obtain ⟨-, hinto, -⟩ := Order.ofRequest_eq_ok_iff.1 ho
    rw [heq]
    simp only [finish_of_goesThrough hthrough]
    exact ⟨o.into, Order.containerOf_eq_ok_iff.1 hinto, Order.fill_delivers h⟩

/-- **What a client chooses is what it gets.** However the pairs are written into the query, the first
`format` decides: without one the upload is filled into PNG, with the name of a container in any case
of ASCII letters into that one, and if there is an answer with a file, its first bytes, its media type
and its name all tell of that container. Any other value is refused with its lowercase in the text, and
no cutter is given anything. -/
theorem handle_negotiated [FurtherReaders] {s : Service} {r : Request} {ps : List (String × String)}
    {u : Multipart.Upload} {c : Cutter} (h : UploadsWith s r ps u c) :
    ((∀ p ∈ ps, p.1 ≠ "format") → s.handle r = Order.fill ⟨⟨u, .png⟩, c⟩) ∧
      (∀ p, FirstWith (fun q => q.1 = "format") ps p →
        (∀ into : Container, Text.asciiLower p.2 = into.name →
          s.handle r = Order.fill ⟨⟨u, into⟩, c⟩) ∧
        ((∀ into : Container, Text.asciiLower p.2 ≠ into.name) →
          (s.handle r).response.status = 400 ∧
            (s.handle r).response.Tells [("error",
              "Unsupported output format: " ++ Text.lowercase p.2 ++ ". Use png or webp.")] ∧
            (s.handle r).cuts = [])) ∧
      ((s.handle r).response.status = 200 →
        ∃ into, Chooses ps into ∧ Delivers (s.handle r).response into) := by
  refine ⟨fun hnone => h.handle_eq (.inl ⟨hnone, rfl⟩), ?_, ?_⟩
  · intro p hp
    refine ⟨fun into hinto => h.handle_eq (.inr ⟨p, hp, hinto⟩), fun hother => ?_⟩
    rw [h.handle_of_unknown hp hother]
    exact ⟨rfl, Refusal.tells_response _, rfl⟩
  · intro hstatus
    have hpath : r.target.path ≠ Bytes.ofAscii "/health" := by
      rw [h.target.path_eq]
      decide
    obtain ⟨into, hasks, hdelivers⟩ := delivers_of_success hstatus hpath
    exact ⟨into, (asksFor_iff_chooses h.target into).1 hasks, hdelivers⟩

/-- Two escapes, one in the key and one in the value, hide nothing of the choice, and a later pair does
not change it. A value that is left empty is refused. -/
theorem handle_negotiated_escaped :
    let c : Cutter := ⟨.ok "u2net", fun _ => .error (.crash .silent)⟩
    let s : Service := ⟨⟨"u2net", some c⟩, 1000⟩
    let asking (query : String) : Request :=
      { oneFile with target := .ofBytes (Bytes.ofAscii "/remove-bg" ++ 63 :: Bytes.ofAscii query) }
    s.handle (asking "%66ormat=%57EbP&format=gif") = Order.fill ⟨⟨⟨"cat.png", [1]⟩, .webp⟩, c⟩ ∧
      (s.handle (asking "format=")).response.Tells
        [("error", "Unsupported output format: . Use png or webp.")] := by
  intro c s asking
  have huploads {query : String} {ps : List (String × String)}
      (hquery : Query.Writes ps (Bytes.ofAscii query)) :
      UploadsWith s (asking query) ps ⟨"cat.png", [1]⟩ c := by
    refine ⟨rfl, .query hquery, ?_, (Order.uploadOf_eq_ok_iff.1 uploadOf_oneFile).1, by decide, rfl⟩
    intro n hn
    rw [← declaredLength?_eq_some_iff] at hn
    cases hn
  have hchosen : Query.Writes [("format", "WEbP"), ("format", "gif")]
      (Bytes.ofAscii "%66ormat=%57EbP&format=gif") := by
    refine ⟨[Bytes.ofAscii "%66ormat=%57EbP", Bytes.ofAscii "format=gif"], ?_, rfl⟩
    have hkey : Query.WritesBytes Query.reservedInKey (Bytes.ofText "format")
        (Bytes.ofAscii "%66ormat") :=
      .cons (.escape (.inl rfl) (.inl rfl)) (Query.writesBytes_self (by decide +kernel))
    have hvalue : Query.WritesBytes Query.reservedInValue (Bytes.ofText "WEbP")
        (Bytes.ofAscii "%57EbP") :=
      .cons (.escape (.inl rfl) (.inl rfl)) (Query.writesBytes_self (by decide +kernel))
    exact .cons (.both hkey hvalue) (.cons (.both (Query.writesBytes_self (by decide +kernel))
      (Query.writesBytes_self (by decide +kernel))) .nil)
  have hempty : Query.Writes [("format", "")] (Bytes.ofAscii "format=") :=
    ⟨[Bytes.ofAscii "format="], .cons (.both (Query.writesBytes_self (by decide +kernel)) .nil) .nil, rfl⟩
  have hfirst := (handle_negotiated (huploads hchosen)).2.1 _ ⟨rfl, [], _, rfl, by simp⟩
  have hnone := (handle_negotiated (huploads hempty)).2.1 _ ⟨rfl, [], _, rfl, by simp⟩
  have hother : ∀ into : Container, Text.asciiLower "" ≠ into.name := by
    intro into
    cases into <;> decide
  exact ⟨hfirst.1 .webp (by decide), (hnone.2 hother).2.1⟩

end Service

end Cutout
