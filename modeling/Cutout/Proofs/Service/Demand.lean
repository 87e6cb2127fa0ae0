import Cutout.Service
import Cutout.Proofs.Container
import Cutout.Proofs.Http.Lookup
import Cutout.Proofs.Http.Multipart.Reading

/-!
# What a request demands

A request carries an upload and asks for a container. Both are stated about the request alone, with
the grammar of its body as it arrives and the first value in its query; `uploadOf_eq_ok_iff` and
`containerOf_eq_ok_iff` say that they are what the service reads, and the other equations say with
what it refuses a request that lacks one of them.
-/

namespace Cutout

open Http

/-! ## The upload -/

/-- What is read of a request under a limit is this upload, or that there is none. -/
def Carries (limit : Nat) (r : Request) (u : Option Multipart.Upload) : Prop :=
  ∃ boundary, DividesBy r boundary ∧
    Multipart.Gives (Bytes.ofText (String.ofList boundary)) limit r.body u

theorem Carries.unique {limit : Nat} {r : Request} {u v : Option Multipart.Upload}
    (hu : Carries limit r u) (hv : Carries limit r v) : u = v := by
  obtain ⟨boundary, hb, hgives⟩ := hu
  obtain ⟨boundary', hb', hgives'⟩ := hv
  obtain rfl := hb.unique hb'
  exact hgives.unique hgives'

/-- A request is no upload in parts, or its body cannot be read, or it carries something. -/
theorem carries_cases (limit : Nat) (r : Request) :
    (∀ boundary, ¬ DividesBy r boundary) ∨
      (∃ boundary, DividesBy r boundary ∧
        let mark := Bytes.ofText (String.ofList boundary)
        (Multipart.Overruns mark limit r.body ∨ Multipart.BreaksOff mark limit r.body ∨
          ∃ f, Multipart.Shows mark limit r.body f)) ∨
      ∃ u, Carries limit r u := by
  by_cases hb : ∃ boundary, DividesBy r boundary
  · obtain ⟨boundary, hb⟩ := hb
    obtain ⟨result, hends⟩ :=
      Multipart.exists_ends (Bytes.ofText (String.ofList boundary)) limit r.body
    cases hends with
    | gives hu => exact .inr (.inr ⟨_, boundary, hb, hu⟩)
    | shows hf => exact .inr (.inl ⟨boundary, hb, .inr (.inr ⟨_, hf⟩)⟩)
    | overruns ho => exact .inr (.inl ⟨boundary, hb, .inl ho⟩)
    | breaksOff hoff => exact .inr (.inl ⟨boundary, hb, .inr (.inl hoff)⟩)
  · exact .inl fun boundary hboundary => hb ⟨boundary, hboundary⟩

namespace Order

variable {limit : Nat} {r : Request} {boundary : List Char}

theorem uploadOf_of_not_dividesBy (h : ∀ boundary, ¬ DividesBy r boundary) (limit : Nat) :
    uploadOf limit r = .error .missingFile := by
  unfold uploadOf
  cases hb : boundary? r.headers with
  | none => rfl
  | some boundary => exact absurd (boundary?_eq_some_iff.1 hb) (h boundary)

/-- Without faults in front of it, the reading of the body decides. -/
theorem uploadOf_of_dividesBy (h : DividesBy r boundary) (limit : Nat) :
    uploadOf limit r =
      match Multipart.read (Bytes.ofText (String.ofList boundary)) limit [] r.body with
      | .error e => .error (bodyRefusal e)
      | .ok none => .error .missingFile
      | .ok (some u) => if u.name.isEmpty then .error .emptyFileName else .ok u := by
  unfold uploadOf
  rw [boundary?_eq_some_iff.2 h]
  simp only [bind, Except.bind]
  cases Multipart.read (Bytes.ofText (String.ofList boundary)) limit [] r.body with
  | error e => rfl
  | ok found => cases found <;> rfl

theorem uploadOf_of_overruns (hb : DividesBy r boundary)
    (h : Multipart.Overruns (Bytes.ofText (String.ofList boundary)) limit r.body) :
    uploadOf limit r = .error .tooLarge := by
  rw [uploadOf_of_dividesBy hb, h.read_eq]
  rfl

theorem uploadOf_of_breaksOff (hb : DividesBy r boundary)
    (h : Multipart.BreaksOff (Bytes.ofText (String.ofList boundary)) limit r.body) :
    uploadOf limit r = .error (.malformed "failed to read stream") := by
  rw [uploadOf_of_dividesBy hb, h.read_eq]
  rfl

theorem uploadOf_of_shows {f : Multipart.Fault} (hb : DividesBy r boundary)
    (h : Multipart.Shows (Bytes.ofText (String.ofList boundary)) limit r.body f) :
    uploadOf limit r = .error (.malformed f.message) := by
  rw [uploadOf_of_dividesBy hb, h.read_eq]
  rfl

theorem uploadOf_of_carries_none (h : Carries limit r none) :
    uploadOf limit r = .error .missingFile := by
  obtain ⟨boundary, hb, hgives⟩ := h
  rw [uploadOf_of_dividesBy hb, hgives.read_eq]

theorem uploadOf_of_carries_some {u : Multipart.Upload} (h : Carries limit r (some u)) :
    uploadOf limit r = if u.name = "" then .error .emptyFileName else .ok u := by
  obtain ⟨boundary, hb, hgives⟩ := h
  rw [uploadOf_of_dividesBy hb, hgives.read_eq]
  simp only [String.isEmpty_iff]

/-- An upload is taken if the request carries it under a name. -/
theorem uploadOf_eq_ok_iff {u : Multipart.Upload} :
    uploadOf limit r = .ok u ↔ Carries limit r (some u) ∧ u.name ≠ "" := by
  constructor
  · intro h
    rcases carries_cases limit r with hb | ⟨boundary, hb, ho | hoff | ⟨f, hf⟩⟩ | ⟨v, hv⟩
    · cases (uploadOf_of_not_dividesBy hb limit).symm.trans h
    · cases (uploadOf_of_overruns hb ho).symm.trans h
    · cases (uploadOf_of_breaksOff hb hoff).symm.trans h
    · cases (uploadOf_of_shows hb hf).symm.trans h
    · cases v with
      | none => cases (uploadOf_of_carries_none hv).symm.trans h
      | some v =>
        rw [uploadOf_of_carries_some hv] at h
        split at h
        · cases h
        · next hname =>
          obtain rfl := Except.ok.inj h
          exact ⟨hv, hname⟩
  · rintro ⟨hcarries, hname⟩
    rw [uploadOf_of_carries_some hcarries, if_neg hname]

end Order

/-! ## The container -/

/-- A request asks for a container: by the first `format` in its query, or by none. -/
def AsksFor (r : Request) (c : Container) : Prop :=
  ((∀ v, ¬ HasValue r "format" v) ∧ c = .png) ∨
    ∃ v, HasValue r "format" v ∧ Text.lowercase v = c.name

namespace Order

theorem containerOf_eq_ok_iff {r : Request} {c : Container} :
    containerOf r = .ok c ↔ AsksFor r c := by
  unfold containerOf AsksFor
  cases hfirst : Query.first? (Query.pairs (r.target.query.getD [])) "format" with
  | none =>
    have hnone : ∀ v, ¬ HasValue r "format" v := by
      intro v hv
      rw [← Query.first?_eq_some_iff, hfirst] at hv
      exact absurd hv (by simp)
    constructor
    · intro h
      exact .inl ⟨hnone, (Except.ok.inj h).symm⟩
    · rintro (⟨-, rfl⟩ | ⟨v, hv, -⟩)
      · rfl
      · exact absurd hv (hnone v)
  | some v =>
    have hv : HasValue r "format" v := Query.first?_eq_some_iff.1 hfirst
    constructor
    · intro h
      refine .inr ⟨v, hv, Container.parse_eq_ok_iff.1 ?_⟩
      cases hparse : Container.parse v <;> simp_all [Except.mapError]
    · rintro (⟨hnone, -⟩ | ⟨w, hw, hname⟩)
      · exact absurd hv (hnone v)
      · rw [← Query.first?_eq_some_iff, hfirst] at hw
        obtain rfl := Option.some.inj hw
        simp only [Container.parse_eq_ok_iff.2 hname, Except.mapError]

theorem containerOf_of_unknown {r : Request} {v : String} (hv : HasValue r "format" v)
    (h : ∀ c : Container, Text.lowercase v ≠ c.name) :
    containerOf r = .error (.unknownContainer ⟨Text.lowercase v⟩) := by
  unfold containerOf
  rw [Query.first?_eq_some_iff.2 hv]
  simp only [Container.parse_eq_error h, Except.mapError]

end Order

/-- A request asks for a container, or for one that is not offered. -/
theorem asksFor_or_unknown (r : Request) :
    (∃ c, AsksFor r c) ∨ ∃ v, HasValue r "format" v ∧ ∀ c : Container, Text.lowercase v ≠ c.name := by
  by_cases hv : ∃ v, HasValue r "format" v
  · obtain ⟨v, hv⟩ := hv
    by_cases hc : ∃ c : Container, Text.lowercase v = c.name
    · obtain ⟨c, hc⟩ := hc
      exact .inl ⟨c, .inr ⟨v, hv, hc⟩⟩
    · exact .inr ⟨v, hv, fun c h => hc ⟨c, h⟩⟩
  · exact .inl ⟨.png, .inl ⟨fun v h => hv ⟨v, h⟩, rfl⟩⟩

end Cutout
