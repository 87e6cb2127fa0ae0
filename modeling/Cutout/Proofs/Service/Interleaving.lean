import Cutout.Proofs.Service.Course
import Cutout.Proofs.Service.Upload

/-!
# Uploads, health checks and a loader at the same time

Whoever looks into the slot in a run sees the cutter that the notices before tell of (`looked_eq`,
`health_eq`), and an attempt to install one succeeds just if it is the first on an empty slot
(`install_eq`). A cutter that is told of once is told of from then on (`opened_append`), and this is
what a client can rely on who has been told, whatever order the steps come in (`run_of_loader`).
-/

namespace Cutout

open Http

/-! ## What is noticed of the slot -/

/-- What can be seen of a step at a site: whoever looks sees the slot as it is. -/
inductive Site.Shows (s : Site) : Notice → Prop
  | installed {c : Cutter} : s.slot.cutter = none → Site.Shows s (.install c (.ok ()))
  | rejected {c d : Cutter} : s.slot.cutter = some d →
      Site.Shows s (.install c (.error (.alreadyLoaded s.slot.model)))
  | health : Site.Shows s (.health s.service.health)
  | arrived {i : Nat} {r : Request} : Site.Shows s (.arrived i r)
  | looked {i : Nat} : Site.Shows s (.looked i s.slot.cutter)
  | answered {i : Nat} {a : Response} : Site.Shows s (.answered i a)
  | silent : Site.Shows s .silent

namespace Site

theorem shows_next [FurtherReaders] (s : Site) (i : Nat) (p : Phase) :
    s.Shows (p.next s.slot s.limit i).2 := by
  unfold Phase.next
  split
  · split <;> exact .silent
  · split <;> exact .looked
  · exact .silent
  · exact .answered
  · exact .silent

theorem shows_step [FurtherReaders] (s : Site) (m : Move) : s.Shows (s.step m).2 := by
  cases m with
  | install c =>
    cases hslot : s.slot.cutter with
    | none =>
      rw [step_install_empty hslot]
      exact .installed hslot
    | some d =>
      rw [step_install_full hslot]
      exact .rejected hslot
  | ask => exact .health
  | arrive i r =>
    simp only [step]
    split
    · exact .arrived
    · exact .silent
  | advance i =>
    simp only [step]
    split
    · exact .silent
    · next p _ => exact s.shows_next i p

/-- In a run, whoever looks sees the slot that the notices before tell. -/
theorem run_shows [FurtherReaders] {s : Site} {moves : List Move} {before after : List Notice}
    {n : Notice} (h : (s.run moves).2 = before ++ n :: after) :
    ∃ t : Site, t.slot = ⟨s.slot.model, opened s.slot before⟩ ∧ t.Shows n := by
  obtain ⟨t, m, hslot, -, rfl⟩ := run_notice h
  exact ⟨t, hslot, t.shows_step m⟩

/-- What was in the slot once stays there. -/
theorem opened_append {slot : Slot} {before : List Notice} {c : Cutter}
    (h : opened slot before = some c) (after : List Notice) :
    opened slot (before ++ after) = some c := by
  unfold opened at h ⊢
  rw [List.findSome?_append]
  cases hslot : slot.cutter with
  | some d =>
    rw [hslot] at h
    exact h
  | none =>
    rw [hslot] at h
    have hfind : before.findSome? Notice.installed? = some c := h
    rw [hfind]
    rfl

end Site

/-- The notice is that of an attempt to install a cutter. -/
def Notice.isInstall : Notice → Bool
  | install _ _ => true
  | _ => false

/-- The notice lets a client know that there is a cutter: it was told so, or its upload found one. -/
def Notice.showsReady : Notice → Bool
  | health a => a.status == 200
  | looked _ found => found.isSome
  | _ => false

namespace Site

variable {slot : Slot} {limit : Nat} {moves : List Move}

/-- Behind an attempt to install a cutter the slot is not empty: the attempt filled it, or came late. -/
theorem opened_of_install [FurtherReaders] {before after : List Notice}
    (h : ((start slot limit).run moves).2 = before ++ after) {n : Notice} (hn : n ∈ before)
    (hinstall : n.isInstall = true) : ∃ c, opened slot before = some c := by
  obtain ⟨front, rest, rfl⟩ := List.append_of_mem hn
  rw [List.append_assoc, List.cons_append] at h
  obtain ⟨t, hslot, hshows⟩ := run_shows h
  have hcutter : t.slot.cutter = opened slot front := congrArg Slot.cutter hslot
  cases hshows with
  | @installed c hempty =>
    refine ⟨c, ?_⟩
    rw [hcutter] at hempty
    unfold opened at hempty ⊢
    rw [List.findSome?_append, List.findSome?_cons]
    cases hs : slot.cutter with
    | some d =>
      rw [hs] at hempty
      cases hempty
    | none =>
      rw [hs] at hempty
      have hnone : front.findSome? Notice.installed? = none := hempty
      rw [hnone]
      rfl
  | @rejected c d hfull =>
    rw [hcutter] at hfull
    exact ⟨d, opened_append hfull _⟩
  | _ => cases hinstall

/-- An attempt to install a cutter succeeds just if it is the first one, on a slot that was empty from
the beginning. -/
theorem install_eq [FurtherReaders] {before after : List Notice} {c : Cutter}
    {result : Except Failure Unit}
    (h : ((start slot limit).run moves).2 = before ++ .install c result :: after) :
    (result = .ok () ↔ slot.cutter = none ∧ ∀ n ∈ before, n.isInstall = false) ∧
      (result = .ok () ∨ result = .error (.alreadyLoaded slot.model)) := by
  obtain ⟨t, hslot, hshows⟩ := run_shows h
  have hcutter : t.slot.cutter = opened slot before := congrArg Slot.cutter hslot
  have hmodel : t.slot.model = slot.model := by
    rw [hslot]
    rfl
  cases hshows with
  | installed hempty =>
    rw [hcutter] at hempty
    refine ⟨⟨fun _ => ⟨?_, ?_⟩, fun _ => rfl⟩, .inl rfl⟩
    · unfold opened at hempty
      cases hs : slot.cutter with
      | none => rfl
      | some d =>
        rw [hs] at hempty
        cases hempty
    · intro n hn
      by_contra hinstall
      obtain ⟨d, hd⟩ := opened_of_install h hn (by simpa using hinstall)
      rw [hempty] at hd
      cases hd
  | @rejected _ d hfull =>
    rw [hcutter] at hfull
    rw [hmodel]
    refine ⟨⟨fun hok => (nomatch hok), ?_⟩, .inr rfl⟩
    rintro ⟨hempty, hfirst⟩
    exfalso
    unfold opened at hfull
    rw [hempty] at hfull
    obtain ⟨n, hn, hinstalled⟩ := List.exists_of_findSome?_eq_some (show _ = some d from hfull)
    have hnot := hfirst n hn
    cases n with
    | install c' r' => cases hnot
    | _ => cases hinstalled

theorem health_eq [FurtherReaders] {before after : List Notice} {a : Response}
    (h : ((start slot limit).run moves).2 = before ++ .health a :: after) :
    a = if (opened slot before).isSome then condition 200 "ok" slot.model
      else condition 503 "loading" slot.model := by
  obtain ⟨t, hslot, hshows⟩ := run_shows h
  cases hshows
  unfold service Service.health Slot.status Slot.isReady condition
  rw [hslot]
  cases hopened : opened slot before with
  | none => simp [start, hopened]
  | some c => simp [start, hopened]

theorem looked_eq [FurtherReaders] {before after : List Notice} {i : Nat} {found : Option Cutter}
    (h : ((start slot limit).run moves).2 = before ++ .looked i found :: after) :
    found = opened slot before := by
  obtain ⟨t, hslot, hshows⟩ := run_shows h
  cases hshows
  exact congrArg Slot.cutter hslot

/-- Who was let know that there is a cutter was told the truth. -/
theorem opened_of_showsReady [FurtherReaders] {before after : List Notice} {n : Notice}
    (h : ((start slot limit).run moves).2 = before ++ n :: after) (hn : n.showsReady = true) :
    ∃ c, opened slot before = some c := by
  cases n with
  | health a =>
    have ha := health_eq h
    cases hopened : opened slot before with
    | some c => exact ⟨c, rfl⟩
    | none =>
      rw [hopened] at ha
      rw [ha] at hn
      cases hn
  | looked i found =>
    have hfound := looked_eq h
    rw [hfound] at hn
    exact Option.isSome_iff_exists.1 hn
  | _ => cases hn

/-- **The loader, the clients and the uploads in any order.** Only the first attempt to install a cutter
succeeds, and only on an empty slot; every other one is told the name of the model and changes nothing.
The slot holds the cutter that was there at first or was installed first, says so, and keeps it; its
model keeps its name. Who asks for the state is told of the cutter from then on. Once a client was told
of a cutter, or its upload found one, every upload that looks later finds the same, and is not told that
there is none. -/
theorem run_of_loader [FurtherReaders] (slot : Slot) (limit : Nat) (moves : List Move) :
    let site := ((start slot limit).run moves).1
    let told := ((start slot limit).run moves).2
    (∀ before c result after, told = before ++ .install c result :: after →
        (result = .ok () ↔ slot.cutter = none ∧ ∀ n ∈ before, n.isInstall = false) ∧
          (result = .ok () ∨ result = .error (.alreadyLoaded slot.model))) ∧
      (∀ c d, site.slot.cutter = some d →
        site.step (.install c) = (site, .install c (.error (.alreadyLoaded slot.model)))) ∧
      site.slot = ⟨slot.model, opened slot told⟩ ∧
      (site.slot.status = "ok" ↔ site.slot.cutter.isSome) ∧
      (∀ c more, site.slot.cutter = some c → (site.run more).1.slot = ⟨slot.model, some c⟩) ∧
      (∀ before a after, told = before ++ .health a :: after →
        a = if (opened slot before).isSome then condition 200 "ok" slot.model
          else condition 503 "loading" slot.model) ∧
      ∀ before n between i found after,
        told = before ++ n :: (between ++ .looked i found :: after) → n.showsReady = true →
          (∃ c, opened slot before = some c ∧ found = some c) ∧
            ∀ a, .answered i a ∈ told → a.status ≠ 503 := by
  intro site told
  have hslot : site.slot = ⟨slot.model, opened slot told⟩ := run_slot (start slot limit) moves
  refine ⟨fun _ _ _ _ h => install_eq h, ?_, hslot, ?_, ?_, fun _ _ _ h => health_eq h, ?_⟩
  · intro c d hfull
    have hmodel : site.slot.model = slot.model := by rw [hslot]
    rw [step_install_full hfull, hmodel]
  · unfold Slot.status Slot.isReady
    cases site.slot.cutter with
    | none => decide
    | some c => simp
  · intro c more hfull
    have hmodel : site.slot.model = slot.model := by rw [hslot]
    rw [run_slot, hmodel]
    unfold opened
    rw [hfull]
    rfl
  · intro before n between i found after h hready
    obtain ⟨c, hc⟩ := opened_of_showsReady h hready
    have hlooked : told = (before ++ n :: between) ++ .looked i found :: after := by
      rw [h, List.append_assoc, List.cons_append]
    have hfound : found = some c := (looked_eq hlooked).trans (opened_append hc _)
    refine ⟨⟨c, hc, hfound⟩, ?_⟩
    intro a ha
    have hmem : .looked i (some c) ∈ told := by
      rw [hlooked, hfound]
      simp
    rcases answered_of_looked hmem ha with hstatus | hstatus <;> rw [hstatus] <;> decide

/-- An upload arrives while the slot is empty, and looks when it has been filled. -/
theorem run_of_loader_in_between :
    let c : Cutter := ⟨.ok "first", fun _ => .error (.crash .silent)⟩
    let d : Cutter := ⟨.ok "second", fun file => .ok file⟩
    let slot : Slot := .loading "u2net"
    let moves : List Move := [.arrive 0 oneFile, .advance 0, .ask, .install c, .install d, .ask,
      .advance 0, .advance 0, .advance 0]
    let told := ((start slot 1000).run moves).2
    let before : List Notice := [.arrived 0 oneFile, .silent, .health (condition 503 "loading" "u2net"),
      .install c (.ok ()), .install d (.error (.alreadyLoaded "u2net"))]
    told = before ++ .health (condition 200 "ok" "u2net") ::
        ([] ++ .looked 0 (some c) ::
          [.silent, .answered 0 (problem 500 "Processing failed: unknown panic")]) ∧
      (∃ c', opened slot before = some c' ∧ some c = some c') ∧
      ∀ a, .answered 0 a ∈ told → a.status ≠ 503 := by
  intro c d slot moves told before
  have htold : told = before ++ .health (condition 200 "ok" "u2net") ::
      ([] ++ .looked 0 (some c) ::
        [.silent, .answered 0 (problem 500 "Processing failed: unknown panic")]) := by
    show ((start slot 1000).run moves).2 = _
    simp only [moves, run, step, start, put, Phase.next, draft_oneFile, Function.update_self]
    rfl
  have hall := (run_of_loader slot 1000 moves).2.2.2.2.2.2 before _ [] 0 (some c) _ htold rfl
  exact ⟨htold, hall⟩

end Site

end Cutout
