import Cutout.Proofs.Service.Cuts
import Cutout.Proofs.Service.Upload

/-!
# Runs of a service

A service is asked and given cutters in any order. One event leads to one outcome, and only a cutter
that is accepted changes the service; so a run is settled by which cutter was in the slot at each of
its requests (`run_replied`), and that is the first one that was accepted, or the one that was there
from the beginning (`chosen`).

The cuts of a run are then counted request by request: there are as many as answers that tell of one
(`run_cuts`).
-/

namespace Cutout

open Http

/-! ## Events and outcomes -/

/-- What can happen to a service. -/
inductive Event where
  | request (r : Request)
  | install (c : Cutter)

/-- What comes of an event. -/
inductive Outcome where
  | replied (r : Request) (reply : Reply)
  | installed (c : Cutter)
  | rejected (c : Cutter) (f : Failure)

namespace Outcome

/-- The cuts that an event leads to. -/
def cuts : Outcome → List Cut
  | replied _ reply => reply.cuts
  | installed _ | rejected _ _ => []

/-- The outcome is an answer that tells of a cut. -/
def tellsOfCut : Outcome → Bool
  | replied _ reply => reply.response.tellsOfCut
  | installed _ | rejected _ _ => false

/-- The cutter that was accepted. -/
def installed? : Outcome → Option Cutter
  | installed c => some c
  | replied _ _ | rejected _ _ => none

end Outcome

namespace Service

/-- One event, and what becomes of the service. -/
def step [FurtherReaders] (s : Service) : Event → Service × Outcome
  | .request r => (s, .replied r (s.handle r))
  | .install c =>
    match s.slot.install c with
    | .ok slot => ({ s with slot := slot }, .installed c)
    | .error f => (s, .rejected c f)

/-- What comes of events, one after the other. -/
def run [FurtherReaders] : Service → List Event → List Outcome
  | _, [] => []
  | s, e :: events => (s.step e).2 :: (s.step e).1.run events

/-- The cutter in a slot after some outcomes: the one that was there, else the first accepted one. -/
def chosen (slot : Slot) (before : List Outcome) : Option Cutter :=
  slot.cutter <|> before.findSome? Outcome.installed?

/-- The service after some outcomes. -/
def afterwards (s : Service) (before : List Outcome) : Service :=
  ⟨⟨s.slot.model, chosen s.slot before⟩, s.limit⟩

/-! ## One step -/

variable {s : Service}

/-- What a step can be: an answer, or a cutter that is accepted by an empty slot and rejected by a full
one. -/
theorem step_cases [FurtherReaders] (s : Service) (e : Event) :
    (∃ r, e = .request r ∧ s.step e = (s, .replied r (s.handle r))) ∨
      (∃ c, e = .install c ∧ s.slot.cutter = none ∧
        s.step e = (⟨⟨s.slot.model, some c⟩, s.limit⟩, .installed c)) ∨
      ∃ c d, e = .install c ∧ s.slot.cutter = some d ∧
        s.step e = (s, .rejected c (.alreadyLoaded s.slot.model)) := by
  cases e with
  | request r => exact .inl ⟨r, rfl, rfl⟩
  | install c =>
    unfold step Slot.install
    cases hslot : s.slot.cutter with
    | none => exact .inr (.inl ⟨c, rfl, rfl, rfl⟩)
    | some d => exact .inr (.inr ⟨c, d, rfl, rfl, rfl⟩)

/-- A step leaves the service as its outcome says. -/
theorem step_afterwards [FurtherReaders] (s : Service) (e : Event) (before : List Outcome) :
    (s.step e).1.afterwards before = s.afterwards ((s.step e).2 :: before) := by
  unfold afterwards chosen
  rcases step_cases s e with ⟨r, -, heq⟩ | ⟨c, -, hslot, heq⟩ | ⟨c, d, -, hslot, heq⟩
  · rw [heq]
    rfl
  · rw [heq, hslot]
    rfl
  · rw [heq, hslot]
    rfl

theorem afterwards_nil (s : Service) : s.afterwards [] = s := by
  obtain ⟨⟨model, cutter⟩, limit⟩ := s
  cases cutter <;> rfl

/-- Every outcome has as many cuts as its answer tells of. -/
theorem step_cuts [FurtherReaders] (s : Service) (e : Event) :
    (s.step e).2.cuts.length = if (s.step e).2.tellsOfCut then 1 else 0 := by
  rcases step_cases s e with ⟨r, -, heq⟩ | ⟨c, -, -, heq⟩ | ⟨c, d, -, -, heq⟩
  · rw [heq]
    exact length_cuts s r
  · rw [heq]
    rfl
  · rw [heq]
    rfl

/-! ## Runs -/

/-- A request in a run is handled by the service that the outcomes before it have left. -/
theorem run_replied [FurtherReaders] {events : List Event} {before after : List Outcome}
    {r : Request} {reply : Reply} (h : s.run events = before ++ .replied r reply :: after) :
    reply = (s.afterwards before).handle r := by
  induction events generalizing s before with
  | nil =>
    rw [run] at h
    exact absurd h (by simp)
  | cons e events ih =>
    rw [run] at h
    cases before with
    | nil =>
      obtain ⟨houtcome, -⟩ := List.cons.inj h
      rw [afterwards_nil]
      rcases step_cases s e with ⟨r', -, heq⟩ | ⟨c, -, -, heq⟩ | ⟨c, d, -, -, heq⟩
      · rw [heq] at houtcome
        obtain ⟨rfl, rfl⟩ := Outcome.replied.inj houtcome
        rfl
      · rw [heq] at houtcome
        cases houtcome
      · rw [heq] at houtcome
        cases houtcome
    | cons o before =>
      obtain ⟨rfl, hrest⟩ := List.cons.inj h
      rw [← step_afterwards]
      exact ih hrest

/-- In a run there are as many cuts as answers that tell of one. -/
theorem length_run_cuts [FurtherReaders] (s : Service) (events : List Event) :
    ((s.run events).flatMap Outcome.cuts).length = (s.run events).countP Outcome.tellsOfCut := by
  induction events generalizing s with
  | nil => rfl
  | cons e events ih =>
    rw [run, List.flatMap_cons, List.length_append, List.countP_cons, ih, step_cuts, Nat.add_comm]

/-- **The accounts of a run.** There are as many cuts as answers that are an image or tell of a failed
cut. No request has more than one; each is made by the cutter that was accepted first, or was in the
slot from the beginning, and on the file that its request carries. A refusal, an answer about the slot
and the answer to another crash are given without a cut, and would be the same for a cutter that cuts
in any other way. -/
theorem run_cuts [FurtherReaders] (s : Service) (events : List Event) :
    ((s.run events).flatMap Outcome.cuts).length = (s.run events).countP Outcome.tellsOfCut ∧
      ∀ before r reply after, s.run events = before ++ .replied r reply :: after →
        reply.cuts.length ≤ 1 ∧
        (∀ cut ∈ reply.cuts, chosen s.slot before = some cut.cutter ∧
          ∃ u, Carries s.limit r (some u) ∧ u.name ≠ "" ∧ cut.file = u.content) ∧
        (reply.response.status ∈ [400, 404, 405, 413, 503] ∨
            r.target.path = Bytes.ofAscii "/health" ∨
              reply.response = problem 500 "Internal server error." →
          reply.cuts = [] ∧
            ∀ f, (((s.afterwards before).withCut f).handle r).response = reply.response) := by
  refine ⟨length_run_cuts s events, ?_⟩
  intro before r reply after h
  obtain rfl := run_replied h
  refine ⟨?_, ?_, ?_⟩
  · rw [length_cuts]
    split <;> decide
  · intro cut hcut
    exact cut_of_mem hcut
  · intro hother
    have hnil := cuts_eq_nil hother
    refine ⟨hnil, fun f => ?_⟩
    have hnone : ∀ cut ∈ ((s.afterwards before).handle r).cuts,
        f cut.file = cut.cutter.cut cut.file := by
      intro cut hcut
      rw [hnil] at hcut
      cases hcut
    exact (handle_withCut hnone).1

/-- An upload is refused before there is a cutter, and then given to the first one of two. -/
theorem run_cuts_of_two_cutters :
    let c : Cutter := ⟨.ok "first", fun _ => .error (.crash .silent)⟩
    let d : Cutter := ⟨.ok "second", fun file => .ok file⟩
    let s : Service := ⟨.loading "u2net", 1000⟩
    let events : List Event := [.request oneFile, .install c, .install d, .request oneFile]
    let before : List Outcome := [.replied oneFile (s.handle oneFile), .installed c,
      .rejected d (.alreadyLoaded "u2net")]
    chosen s.slot before = some c ∧ ((s.afterwards before).handle oneFile).cuts = [⟨c, [1]⟩] ∧
      ((s.run events).flatMap Outcome.cuts).length = (s.run events).countP Outcome.tellsOfCut ∧
      ((s.afterwards before).handle oneFile).cuts.length ≤ 1 := by
  intro c d s events before
  have hthrough : GoesThrough (s.afterwards before) oneFile := ⟨rfl, rfl, rfl⟩
  have hremove : (s.afterwards before).remove oneFile =
      Order.fill ⟨⟨⟨"cat.png", [1]⟩, .png⟩, c⟩ :=
    remove_of_draft uploadOf_oneFile rfl
  have hcuts : ((s.afterwards before).handle oneFile).cuts = [⟨c, [1]⟩] := by
    rw [handle_of_goesThrough hthrough, hremove]
    rfl
  have haccounts := run_cuts s events
  exact ⟨rfl, hcuts, haccounts.1, (haccounts.2 before oneFile _ [] rfl).1⟩

end Service

end Cutout
