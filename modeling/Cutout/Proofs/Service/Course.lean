import Cutout.Proofs.Service.Site

/-!
# The course of an upload

The steps of an upload are its own, whatever happens between them. `Course` ties how far it has come to
what was noticed of it; each step of a site keeps every upload to its course (`Site.Keeps.step`), and so
does a run.

From it, an upload that found a cutter is never told that there is none (`answered_of_looked`), and an
upload is answered what the service would answer in one step, with the slot as it was when the upload
looked (`answered_eq_remove`).
-/

namespace Cutout

open Http

/-- The notice is about an upload. -/
def Notice.isAbout (i : Nat) : Notice → Bool
  | arrived j _ | looked j _ | answered j _ => j == i
  | install _ _ | health _ | silent => false

/-- What was noticed of an upload. -/
def story (i : Nat) (told : List Notice) : List Notice :=
  told.filter (Notice.isAbout i)

theorem story_append (i : Nat) (told : List Notice) (n : Notice) :
    story i (told ++ [n]) = story i told ++ story i [n] :=
  List.filter_append ..

theorem mem_story {i : Nat} {told : List Notice} {n : Notice} (hn : n ∈ told)
    (habout : n.isAbout i = true) : n ∈ story i told :=
  List.mem_filter.2 ⟨hn, habout⟩

variable [FurtherReaders]

/-- What a request leads to, by what was noticed of it before its answer. -/
inductive Leads (limit i : Nat) (r : Request) : List Notice → Reply → Prop
  | refused {e : Refusal} : Order.draft limit r = .error e →
      Leads limit i r [.arrived i r] (.refused e)
  | turnedAway {d : Draft} {e : Refusal} {found : Option Cutter} : Order.draft limit r = .ok d →
      Order.place d found = .error e → Leads limit i r [.arrived i r, .looked i found] (.refused e)
  | filled {d : Draft} {o : Order} {found : Option Cutter} : Order.draft limit r = .ok d →
      Order.place d found = .ok o → Leads limit i r [.arrived i r, .looked i found] o.fill

/-- How far an upload has come, and what was noticed of it on the way: it looks into the slot at most
once, and only after its checks. -/
inductive Course (limit i : Nat) : Option Phase → List Notice → Prop
  | absent : Course limit i none []
  | arrived {r : Request} : Course limit i (some (.arrived r)) [.arrived i r]
  | checked {r : Request} {d : Draft} : Order.draft limit r = .ok d →
      Course limit i (some (.checked r d)) [.arrived i r]
  | admitted {r : Request} {d : Draft} {o : Order} {found : Option Cutter} :
      Order.draft limit r = .ok d → Order.place d found = .ok o →
      Course limit i (some (.admitted r o)) [.arrived i r, .looked i found]
  | settled {r : Request} {before : List Notice} {reply : Reply} : Leads limit i r before reply →
      Course limit i (some (.settled r reply)) before
  | answered {r : Request} {before : List Notice} {reply : Reply} : Leads limit i r before reply →
      Course limit i (some (.answered r reply)) (before ++ [.answered i reply.response])

theorem Course.eq_nil {limit i : Nat} {told : List Notice} (h : Course limit i none told) :
    told = [] := by
  cases h
  rfl

/-- An upload keeps to its course when it takes a step. -/
theorem Course.next {limit i : Nat} {p : Phase} {told : List Notice} (slot : Slot)
    (h : Course limit i (some p) told) :
    Course limit i (some (p.next slot limit i).1) (told ++ story i [(p.next slot limit i).2]) := by
  have hself : ∀ n : Notice, n.isAbout i = true → story i [n] = [n] := by
    intro n hn
    simp [story, hn]
  cases h with
  | @arrived r =>
    cases hd : Order.draft limit r with
    | error e =>
      simp only [Phase.next, hd]
      exact .settled (.refused hd)
    | ok d =>
      simp only [Phase.next, hd]
      exact .checked hd
  | @checked r d hd =>
    have hlooked := hself (.looked i slot.cutter) (by simp [Notice.isAbout])
    cases ho : Order.place d slot.cutter with
    | error e =>
      simp only [Phase.next, ho, hlooked]
      exact .settled (.turnedAway hd ho)
    | ok o =>
      simp only [Phase.next, ho, hlooked]
      exact .admitted hd ho
  | admitted hd ho => exact .settled (.filled hd ho)
  | settled hleads =>
    simp only [Phase.next, hself (.answered i _) (by simp [Notice.isAbout])]
    exact .answered hleads
  | answered hleads =>
    show Course limit i _ (_ ++ [])
    rw [List.append_nil]
    exact .answered hleads

/-- A step of one upload is not about another one. -/
theorem Phase.isAbout_next {i j : Nat} (h : j ≠ i) (slot : Slot) (limit : Nat) (p : Phase) :
    (p.next slot limit j).2.isAbout i = false := by
  have hne : (j == i) = false := by simpa using h
  unfold Phase.next
  split
  · split <;> rfl
  · split <;> exact hne
  · rfl
  · exact hne
  · rfl

/-- Every upload keeps to its course. -/
def Site.Keeps (s : Site) (told : List Notice) : Prop :=
  ∀ i, Course s.limit i (s.uploads i) (story i told)

namespace Site

variable {s : Site}

/-- **Every step keeps every upload to its course**: the one that takes it goes on by one phase, and the
others stay where they are. -/
theorem Keeps.step {told : List Notice} (h : s.Keeps told) (m : Move) :
    (s.step m).1.Keeps (told ++ [(s.step m).2]) := by
  intro i
  rw [step_limit, story_append]
  -- a step that is not about the upload
  have hother : (s.step m).1.uploads i = s.uploads i → (s.step m).2.isAbout i = false →
      Course s.limit i ((s.step m).1.uploads i) (story i told ++ story i [(s.step m).2]) := by
    intro huploads habout
    have hnil : story i [(s.step m).2] = [] := by simp [story, habout]
    rw [huploads, hnil, List.append_nil]
    exact h i
  cases m with
  | install c =>
    apply hother
    · simp only [Site.step]
      split <;> rfl
    · simp only [Site.step]
      split <;> rfl
  | ask => exact hother rfl rfl
  | arrive j r =>
    cases hj : s.uploads j with
    | some p =>
      apply hother
      · simp only [Site.step, hj]
      · simp only [Site.step, hj]
        rfl
    | none =>
      by_cases hji : j = i
      · subst hji
        have hcourse := h j
        rw [hj] at hcourse
        have hself : story j [.arrived j r] = [.arrived j r] := by simp [story, Notice.isAbout]
        simp only [Site.step, hj, put, Function.update_self, hcourse.eq_nil, hself]
        exact .arrived
      · apply hother
        · simp only [Site.step, hj, put]
          exact Function.update_of_ne (Ne.symm hji) _ _
        · simp only [Site.step, hj]
          simpa [Notice.isAbout] using hji
  | advance j =>
    cases hj : s.uploads j with
    | none =>
      apply hother
      · simp only [Site.step, hj]
      · simp only [Site.step, hj]
        rfl
    | some p =>
      by_cases hji : j = i
      · subst hji
        have hcourse := h j
        rw [hj] at hcourse
        simp only [Site.step, hj, put, Function.update_self]
        exact hcourse.next s.slot
      · apply hother
        · simp only [Site.step, hj, put]
          exact Function.update_of_ne (Ne.symm hji) _ _
        · simp only [Site.step, hj]
          exact p.isAbout_next hji s.slot s.limit

/-- **In a run every upload keeps to its course.** -/
theorem Keeps.run {told : List Notice} (h : s.Keeps told) (moves : List Move) :
    (s.run moves).1.Keeps (told ++ (s.run moves).2) := by
  induction moves generalizing s told with
  | nil =>
    show s.Keeps (told ++ [])
    rw [List.append_nil]
    exact h
  | cons m moves ih =>
    have hrest := ih (h.step m)
    rw [run_cons]
    rw [List.append_assoc] at hrest
    exact hrest

theorem keeps_start (slot : Slot) (limit : Nat) : (start slot limit).Keeps [] :=
  fun _ => .absent

theorem run_limit (s : Site) (moves : List Move) : (s.run moves).1.limit = s.limit := by
  induction moves generalizing s with
  | nil => rfl
  | cons m moves ih =>
    rw [run_cons]
    show ((s.step m).1.run moves).1.limit = _
    rw [ih, step_limit]

end Site

/-! ## What an upload is answered -/

/-- What an upload leads to is what the service answers in one step, with the slot as the upload found
it. If it did not look, it does not matter what is in the slot. -/
theorem Leads.eq_remove {limit i : Nat} {r : Request} {told : List Notice} {reply : Reply}
    (h : Leads limit i r told reply) :
    ∃ found, (∀ found', .looked i found' ∈ told → found' = found) ∧
      ∀ model, reply = Service.remove ⟨⟨model, found⟩, limit⟩ r := by
  cases h with
  | refused hd =>
    refine ⟨none, by simp, fun model => ?_⟩
    unfold Service.remove Order.ofRequest
    rw [hd]
    rfl
  | @turnedAway d e found hd ho =>
    refine ⟨found, by simp, fun model => ?_⟩
    unfold Service.remove Order.ofRequest
    rw [hd]
    simp only [bind, Except.bind, ho]
  | @filled d o found hd ho =>
    refine ⟨found, by simp, fun model => ?_⟩
    unfold Service.remove Order.ofRequest
    rw [hd]
    simp only [bind, Except.bind, ho]

/-- An upload that found a cutter is answered with an image or the failure of it. -/
theorem Leads.status_of_looked {limit i : Nat} {r : Request} {told : List Notice} {reply : Reply}
    (h : Leads limit i r told reply) {c : Cutter} (hlooked : .looked i (some c) ∈ told) :
    reply.response.status = 200 ∨ reply.response.status = 500 := by
  cases h with
  | refused hd => simp at hlooked
  | turnedAway hd ho =>
    obtain rfl : some c = _ := by simpa using hlooked
    cases ho
  | @filled d o found hd ho =>
    rcases o.fill_cuts with ⟨-, hresponse⟩ | ⟨-, -, hstatus⟩
    · rw [hresponse]
      exact .inr rfl
    · exact hstatus

theorem Leads.answered_notMem {limit i : Nat} {r : Request} {told : List Notice} {reply : Reply}
    (h : Leads limit i r told reply) (a : Response) : .answered i a ∉ told := by
  cases h <;> simp

/-- An upload is answered at the end of its course. -/
theorem Course.of_answered {limit i : Nat} {p : Option Phase} {told : List Notice} {a : Response}
    (h : Course limit i p told) (ha : .answered i a ∈ told) :
    ∃ r before reply, Leads limit i r before reply ∧ told = before ++ [.answered i a] ∧
      a = reply.response := by
  cases h with
  | absent => cases ha
  | arrived => simp at ha
  | checked => simp at ha
  | admitted => simp at ha
  | settled hleads => exact absurd ha (hleads.answered_notMem a)
  | @answered r before reply hleads =>
    rcases List.mem_append.1 ha with ha | ha
    · exact absurd ha (hleads.answered_notMem a)
    · obtain rfl : a = reply.response := by simpa using ha
      exact ⟨r, before, reply, hleads, rfl, rfl⟩

namespace Site

variable {slot : Slot} {limit : Nat} {moves : List Move} {i : Nat} {a : Response}

/-- The course of an upload in a run that begins without uploads. -/
theorem course_run (slot : Slot) (limit : Nat) (moves : List Move) (i : Nat) :
    Course limit i (((start slot limit).run moves).1.uploads i)
      (story i ((start slot limit).run moves).2) := by
  have hkeeps := (keeps_start slot limit).run moves i
  rw [run_limit] at hkeeps
  exact hkeeps

/-- **An upload is answered as if it had been handled in one step**, with the slot as it was when the
upload looked. -/
theorem answered_eq_remove (h : .answered i a ∈ ((start slot limit).run moves).2) :
    ∃ r found, .arrived i r ∈ ((start slot limit).run moves).2 ∧
      (∀ found', .looked i found' ∈ ((start slot limit).run moves).2 → found' = found) ∧
        ∀ model, a = (Service.remove ⟨⟨model, found⟩, limit⟩ r).response := by
  have hmem := mem_story h (i := i) (by simp [Notice.isAbout])
  obtain ⟨r, before, reply, hleads, hstory, rfl⟩ := (course_run slot limit moves i).of_answered hmem
  obtain ⟨found, hfound, hremove⟩ := hleads.eq_remove
  refine ⟨r, found, ?_, ?_, fun model => congrArg Reply.response (hremove model)⟩
  · have harrived : .arrived i r ∈ story i ((start slot limit).run moves).2 := by
      rw [hstory]
      cases hleads <;> simp
    exact (List.mem_filter.1 harrived).1
  · intro found' hlooked
    have hlooked := mem_story hlooked (i := i) (by simp [Notice.isAbout])
    rw [hstory] at hlooked
    rcases List.mem_append.1 hlooked with hlooked | hlooked
    · exact hfound found' hlooked
    · simp at hlooked

/-- An upload that found a cutter is not told that there is none. -/
theorem answered_of_looked {c : Cutter}
    (hlooked : .looked i (some c) ∈ ((start slot limit).run moves).2)
    (h : .answered i a ∈ ((start slot limit).run moves).2) : a.status = 200 ∨ a.status = 500 := by
  have hmem := mem_story h (i := i) (by simp [Notice.isAbout])
  obtain ⟨r, before, reply, hleads, hstory, rfl⟩ := (course_run slot limit moves i).of_answered hmem
  have hlooked := mem_story hlooked (i := i) (by simp [Notice.isAbout])
  rw [hstory] at hlooked
  rcases List.mem_append.1 hlooked with hlooked | hlooked
  · exact hleads.status_of_looked hlooked
  · simp at hlooked

end Site

end Cutout
