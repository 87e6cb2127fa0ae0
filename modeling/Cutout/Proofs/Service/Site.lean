import Cutout.Proofs.Service.Cuts
import Mathlib.Logic.Function.Basic

/-!
# A site

While the loader tries to fill the slot, clients ask for its state, and uploads are under way. An
upload takes its steps one by one: it is checked, it looks into the slot, it is filled, and it is
answered. The steps of all of them come in any order (`Site.run`).

What can be seen of a run are its notices. The cutter in the slot is told by them (`Site.opened`): it is
the one that was there from the beginning, else the first that was installed. Each step keeps that
(`step_slot`), and so each notice of a run is that of a step with the slot that the notices before it
tell (`run_notice`).
-/

namespace Cutout

open Http

/-! ## Steps -/

/-- How far an upload has come. -/
inductive Phase where
  /-- Nothing of it has been looked at. -/
  | arrived (r : Request)
  /-- It has passed the checks that need no cutter. -/
  | checked (r : Request) (d : Draft)
  /-- It has found a cutter. -/
  | admitted (r : Request) (o : Order)
  /-- What it leads to is settled. -/
  | settled (r : Request) (reply : Reply)
  | answered (r : Request) (reply : Reply)

/-- What can be seen of a step. -/
inductive Notice where
  | install (c : Cutter) (result : Except Failure Unit)
  | health (a : Response)
  | arrived (i : Nat) (r : Request)
  | looked (i : Nat) (found : Option Cutter)
  | answered (i : Nat) (a : Response)
  | silent

/-- The next step of an upload. It looks into the slot only after the checks, and only once. -/
def Phase.next [FurtherReaders] (slot : Slot) (limit i : Nat) : Phase → Phase × Notice
  | arrived r =>
    match Order.draft limit r with
    | .error e => (settled r (.refused e), .silent)
    | .ok d => (checked r d, .silent)
  | checked r d =>
    match Order.place d slot.cutter with
    | .error e => (settled r (.refused e), .looked i slot.cutter)
    | .ok o => (admitted r o, .looked i slot.cutter)
  | admitted r o => (settled r o.fill, .silent)
  | settled r reply => (answered r reply, .answered i reply.response)
  | answered r reply => (answered r reply, .silent)

/-- Who takes the next step. -/
inductive Move where
  /-- The loader tries to install a cutter. -/
  | install (c : Cutter)
  /-- A client asks for the state of the slot. -/
  | ask
  /-- An upload arrives, under a number that has not been used. -/
  | arrive (i : Nat) (r : Request)
  /-- An upload takes its next step. -/
  | advance (i : Nat)

/-- A service with the uploads that have arrived. -/
structure Site where
  slot : Slot
  limit : Nat
  uploads : Nat → Option Phase

namespace Site

/-- A site without uploads. -/
def start (slot : Slot) (limit : Nat) : Site :=
  ⟨slot, limit, fun _ => none⟩

/-- The service of a site. -/
def service (s : Site) : Service :=
  ⟨s.slot, s.limit⟩

/-- The upload `i` is in a phase. -/
def put (s : Site) (i : Nat) (p : Phase) : Site :=
  { s with uploads := Function.update s.uploads i (some p) }

/-- One step, and what can be seen of it. -/
def step [FurtherReaders] (s : Site) : Move → Site × Notice
  | .install c =>
    match s.slot.install c with
    | .ok slot => ({ s with slot := slot }, .install c (.ok ()))
    | .error f => (s, .install c (.error f))
  | .ask => (s, .health s.service.health)
  | .arrive i r =>
    match s.uploads i with
    | none => (s.put i (.arrived r), .arrived i r)
    | some _ => (s, .silent)
  | .advance i =>
    match s.uploads i with
    | none => (s, .silent)
    | some p =>
      let next := p.next s.slot s.limit i
      (s.put i next.1, next.2)

/-- The site after some steps, and what could be seen of them. -/
def run [FurtherReaders] : Site → List Move → Site × List Notice
  | s, [] => (s, [])
  | s, m :: moves =>
    let later := (s.step m).1.run moves
    (later.1, (s.step m).2 :: later.2)

end Site

/-- The cutter that was installed. -/
def Notice.installed? : Notice → Option Cutter
  | install c (.ok _) => some c
  | _ => none

/-- The cutter in a slot, as it was at first and by what was noticed since. -/
def Site.opened (slot : Slot) (told : List Notice) : Option Cutter :=
  slot.cutter <|> told.findSome? Notice.installed?

/-! ## One step -/

variable [FurtherReaders]

/-- No step of an upload installs a cutter. -/
theorem Phase.installed?_next (slot : Slot) (limit i : Nat) (p : Phase) :
    (p.next slot limit i).2.installed? = none := by
  unfold next
  split
  · split <;> rfl
  · split <;> rfl
  · rfl
  · rfl
  · rfl

namespace Site

variable {s : Site}

theorem step_install_empty (h : s.slot.cutter = none) (c : Cutter) :
    s.step (.install c) = ({ s with slot := ⟨s.slot.model, some c⟩ }, .install c (.ok ())) := by
  unfold step Slot.install
  rw [h]

/-- A cutter that comes late changes nothing. -/
theorem step_install_full {d : Cutter} (h : s.slot.cutter = some d) (c : Cutter) :
    s.step (.install c) = (s, .install c (.error (.alreadyLoaded s.slot.model))) := by
  unfold step Slot.install
  rw [h]

/-- What is not a step of the loader leaves the slot alone. -/
theorem step_other {m : Move} (h : ∀ c, m ≠ .install c) :
    (s.step m).1.slot = s.slot ∧ (s.step m).2.installed? = none := by
  cases m with
  | install c => exact absurd rfl (h c)
  | ask => exact ⟨rfl, rfl⟩
  | arrive i r =>
    simp only [step]
    split <;> exact ⟨rfl, rfl⟩
  | advance i =>
    simp only [step]
    split
    · exact ⟨rfl, rfl⟩
    · next p _ => exact ⟨rfl, p.installed?_next s.slot s.limit i⟩

theorem step_limit (s : Site) (m : Move) : (s.step m).1.limit = s.limit := by
  unfold step
  split
  · split <;> rfl
  · rfl
  · split <;> rfl
  · split <;> rfl

/-- **What a step makes of the slot**: the loader fills it if it is empty, and nothing else does. The
name of the model stays. -/
theorem step_slot (s : Site) (m : Move) :
    (s.step m).1.slot = ⟨s.slot.model, s.slot.cutter <|> (s.step m).2.installed?⟩ := by
  have hkeep : s.slot = ⟨s.slot.model, s.slot.cutter <|> none⟩ := by
    obtain ⟨⟨model, cutter⟩, limit, uploads⟩ := s
    cases cutter <;> rfl
  by_cases hinstall : ∃ c, m = .install c
  · obtain ⟨c, rfl⟩ := hinstall
    cases hslot : s.slot.cutter with
    | none =>
      rw [step_install_empty hslot]
      rfl
    | some d =>
      rw [step_install_full hslot]
      show s.slot = ⟨s.slot.model, some d⟩
      rw [← hslot]
  · obtain ⟨hslot, hnotice⟩ := step_other (s := s) fun c hc => hinstall ⟨c, hc⟩
    rw [hslot, hnotice]
    exact hkeep

/-- The slot tells the same before a step and after it, if the step is told. -/
theorem opened_step (s : Site) (m : Move) (told : List Notice) :
    opened (s.step m).1.slot told = opened s.slot ((s.step m).2 :: told) := by
  unfold opened
  rw [step_slot, List.findSome?_cons]
  cases s.slot.cutter with
  | some c => rfl
  | none => cases (s.step m).2.installed? <;> rfl

/-! ## The slot in a run -/

theorem run_cons (s : Site) (m : Move) (moves : List Move) :
    s.run (m :: moves) =
      (((s.step m).1.run moves).1, (s.step m).2 :: ((s.step m).1.run moves).2) :=
  rfl

/-- **The slot at the end of a run** is the one that its notices tell. -/
theorem run_slot (s : Site) (moves : List Move) :
    (s.run moves).1.slot = ⟨s.slot.model, opened s.slot (s.run moves).2⟩ := by
  induction moves generalizing s with
  | nil =>
    obtain ⟨⟨model, cutter⟩, limit, uploads⟩ := s
    cases cutter <;> rfl
  | cons m moves ih =>
    rw [run_cons, ← opened_step]
    show ((s.step m).1.run moves).1.slot = _
    rw [ih, step_slot]

/-- Every notice of a run is that of a step, at a site with the slot that the notices before it tell. -/
theorem run_notice {moves : List Move} {before after : List Notice} {n : Notice}
    (h : (s.run moves).2 = before ++ n :: after) :
    ∃ (t : Site) (m : Move), t.slot = ⟨s.slot.model, opened s.slot before⟩ ∧ t.limit = s.limit ∧
      n = (t.step m).2 := by
  induction moves generalizing s before with
  | nil => exact absurd h (by simp [run])
  | cons m moves ih =>
    rw [run_cons] at h
    cases before with
    | nil =>
      obtain ⟨rfl, -⟩ := List.cons.inj h
      refine ⟨s, m, ?_, rfl, rfl⟩
      obtain ⟨⟨model, cutter⟩, limit, uploads⟩ := s
      cases cutter <;> rfl
    | cons n' before =>
      obtain ⟨rfl, hrest⟩ := List.cons.inj h
      obtain ⟨t, m', hslot, hlimit, hn⟩ := ih hrest
      refine ⟨t, m', ?_, hlimit.trans (s.step_limit m), hn⟩
      rw [hslot, opened_step, step_slot]

end Site

end Cutout
