import Cutout.Proofs.Http.Multipart.Truncation
import Cutout.Proofs.Service.Limit

/-!
# Uploads that break off or go on

What the service does with an upload depends on its body by the file in it (`Posts.handle_congr`). The
file is there from the end of the boundary behind it on, so that everything that arrives later changes
nothing; as long as this boundary is not complete, the upload is refused (`Posts.handle_of_no_file`).
Together, a file of which only a part has arrived is never cut (`Service.handle_of_truncated`).
-/

namespace Cutout

open Http Multipart

/-- A request posts plain parts to the removal, under a boundary that is a token, and declares no
length above the limit. -/
structure Posts (s : Service) (r : Request) (boundary : List Char) (parts : List Part) : Prop
    extends IsUpload r boundary where
  declared : ∀ n, Declares r n → n ≤ s.limit
  token : IsTokenText boundary
  plain : ∀ p ∈ parts, p.IsPlain (Bytes.ofText (String.ofList boundary))

namespace Posts

variable {s : Service} {r : Request} {boundary : List Char} {parts : List Part}

theorem handle_eq [FurtherReaders] (h : Posts s r boundary parts) (pieces : List Piece) :
    s.handle (r.withBody pieces) = s.remove (r.withBody pieces) :=
  h.toIsUpload.handle_eq h.declared pieces

theorem carries (h : Posts s r boundary parts) {pieces : List Piece} {body : Bytes}
    {u : Option Upload} (harr : Arrives s.limit pieces body)
    (hholds : Holds (Bytes.ofText (String.ofList boundary)) body u) :
    Carries s.limit (r.withBody pieces) u :=
  ⟨boundary, h.divides, body, .inl harr, hholds⟩

/-- Two bodies that hold the same file are answered alike, and this file is all that is cut. -/
theorem handle_congr [FurtherReaders] (h : Posts s r boundary parts) {pieces pieces' : List Piece}
    {body body' : Bytes} {u : Upload} (harr : Arrives s.limit pieces body)
    (harr' : Arrives s.limit pieces' body')
    (hholds : Holds (Bytes.ofText (String.ofList boundary)) body (some u))
    (hholds' : Holds (Bytes.ofText (String.ofList boundary)) body' (some u)) :
    s.handle (r.withBody pieces) = s.handle (r.withBody pieces') ∧
      ∀ cut ∈ (s.handle (r.withBody pieces)).cuts, cut.file = u.content := by
  have hcarries := h.carries harr hholds
  have hcarries' := h.carries harr' hholds'
  constructor
  · have htarget : (r.withBody pieces).target = (r.withBody pieces').target := rfl
    rw [h.handle_eq, h.handle_eq]
    apply Service.remove_congr htarget
    rw [Order.uploadOf_of_carries_some hcarries, Order.uploadOf_of_carries_some hcarries']
  · intro cut hcut
    obtain ⟨-, v, hv, -, hfile⟩ := Service.cut_of_mem hcut
    obtain rfl := Option.some.inj (hv.unique hcarries)
    exact hfile

/-- A body that holds no file, or is broken, is refused, and nothing is cut. -/
theorem handle_of_no_file [FurtherReaders] (h : Posts s r boundary parts) {pieces : List Piece}
    {body : Bytes} (harr : Arrives s.limit pieces body)
    (hbody : Holds (Bytes.ofText (String.ofList boundary)) body none ∨
      ∃ f, Broken (Bytes.ofText (String.ofList boundary)) body f) :
    (s.handle (r.withBody pieces)).response.status = 400 ∧
      (s.handle (r.withBody pieces)).cuts = [] := by
  rw [h.handle_eq]
  rcases hbody with hnone | ⟨f, hbroken⟩
  · rw [Service.remove_eq_refused (Order.uploadOf_of_carries_none (h.carries harr hnone))]
    exact ⟨rfl, rfl⟩
  · have hdivides : DividesBy (r.withBody pieces) boundary := h.divides
    have hshows : Shows (Bytes.ofText (String.ofList boundary)) s.limit pieces f :=
      ⟨body, .inl harr, hbroken⟩
    rw [Service.remove_eq_refused (Order.uploadOf_of_shows hdivides hshows)]
    exact ⟨rfl, rfl⟩

end Posts

namespace Service

/-- **An upload that breaks off or goes on.** From the end of the boundary behind the file on, the
service does the same as for the whole upload, whatever else arrives, and what it cuts is the whole
file. An upload that breaks off earlier is refused and nothing is cut, and so it is if there is no
file among its parts. -/
theorem handle_of_truncated [FurtherReaders] (s : Service) (r : Request) (boundary : List Char)
    (parts : List Part) (h : Posts s r boundary parts) (k : Nat) :
    let mark := Bytes.ofText (String.ofList boundary)
    let whole := written mark parts
    (∀ front p rest name, parts = front ++ p :: rest → p.name = "file" → p.fileName = some name →
        (∀ q ∈ front, q.name = "file" → q.fileName = none) →
        ((upTo mark (front ++ [p])).length ≤ k → ∀ tail pieces pieces',
            Arrives s.limit pieces (whole.take k ++ tail) → Arrives s.limit pieces' whole →
            s.handle (r.withBody pieces) = s.handle (r.withBody pieces') ∧
              ∀ cut ∈ (s.handle (r.withBody pieces)).cuts, cut.file = p.content) ∧
          (k < (upTo mark (front ++ [p])).length → ∀ pieces,
            Arrives s.limit pieces (whole.take k) →
            (s.handle (r.withBody pieces)).response.status = 400 ∧
              (s.handle (r.withBody pieces)).cuts = [])) ∧
      ((∀ p ∈ parts, p.name = "file" → p.fileName = none) → ∀ pieces,
        Arrives s.limit pieces (whole.take k) →
        (s.handle (r.withBody pieces)).response.status = 400 ∧
          (s.handle (r.withBody pieces)).cuts = []) := by
  intro mark whole
  have hmark : 13 ∉ mark := h.token.return_notMem
  refine ⟨?_, ?_⟩
  · rintro front p rest name rfl hfield hname hfront
    have hfile : p.upload? = some ⟨name, p.content⟩ := by
      unfold Part.upload?
      rw [if_pos hfield, hname, Option.map_some]
    have hfront : ∀ q ∈ front, q.upload? = none := fun q hq => Part.upload?_eq_none (hfront q hq)
    have hplain : ∀ q ∈ front ++ [p], q.IsPlain mark := by
      intro q hq
      refine h.plain q ?_
      rw [List.mem_append, List.mem_singleton] at hq
      rw [List.mem_append, List.mem_cons]
      exact hq.imp_right .inl
    obtain ⟨later, hlater⟩ : ∃ later, whole = upTo mark (front ++ [p]) ++ later := by
      have hsplit := exists_written_eq_upTo mark (front ++ [p]) rest
      rwa [List.append_assoc, List.singleton_append] at hsplit
    have hholds := holds_upTo hmark hplain hfile hfront
    refine ⟨?_, ?_⟩
    · intro hk tail pieces pieces' harr harr'
      have htake : whole.take k = upTo mark (front ++ [p]) ++
          later.take (k - (upTo mark (front ++ [p])).length) := by
        rw [hlater, List.take_append, List.take_of_length_le hk]
      refine h.handle_congr (u := ⟨name, p.content⟩) harr harr' ?_ ?_
      · rw [htake, List.append_assoc]
        exact hholds _
      · rw [hlater]
        exact hholds _
    · intro hk pieces harr
      have hshort : upTo mark (front ++ [p]) = whole.take k ++ (upTo mark (front ++ [p])).drop k := by
        rw [hlater, List.take_append_of_le_length hk.le, List.take_append_drop]
      have hrest : (upTo mark (front ++ [p])).drop k ≠ [] := by
        rw [Ne, List.drop_eq_nil_iff]
        omega
      exact h.handle_of_no_file harr (.inr (broken_of_short hmark hplain hfile hfront hshort hrest))
  · intro hnone pieces harr
    have hwhole : Holds mark (whole.take k ++ whole.drop k) none := by
      rw [List.take_append_drop, ← findSome?_upload?_eq_none hnone]
      exact holds_written hmark h.plain
    exact h.handle_of_no_file harr hwhole.of_append

/-- An upload of a field and a file goes on with other bytes right behind the boundary that ends the
file, and one breaks off a byte earlier. -/
theorem handle_of_truncated_at_boundary :
    let parts : List Part := [⟨"note", none, [7]⟩, ⟨"file", some "cat.png", [1, 2]⟩]
    let r : Request := ⟨"POST", ⟨Bytes.ofAscii "/remove-bg", none⟩,
      [⟨"Content-Type", announcement ['x']⟩], []⟩
    let s : Service := ⟨⟨"u2net", some ⟨.ok "u2net", fun file => .ok file⟩⟩, 1000⟩
    let mark := Bytes.ofText (String.ofList ['x'])
    let whole := written mark parts
    let n := (upTo mark parts).length
    Posts s r ['x'] parts ∧
      s.handle (r.withBody [.data (whole.take n), .data [13, 255]]) =
        s.handle (r.withBody [.data whole]) ∧
      (s.handle (r.withBody [.data (whole.take (n - 1))])).response.status = 400 ∧
      (s.handle (r.withBody [.data (whole.take (n - 1))])).cuts = [] := by
  intro parts r s mark whole n
  have htoken : IsTokenText ['x'] := ⟨by decide, List.all_eq_true.1 (by decide)⟩
  have hposts : Posts s r ['x'] parts := by
    have hdivides := dividesBy_of_announcement htoken (r := r) (first?_eq_some_iff.1 rfl)
    refine ⟨⟨rfl, rfl, hdivides⟩, ?_, htoken, by decide +kernel⟩
    intro m hm
    have hnone : r.declaredLength? = none := rfl
    rw [← declaredLength?_eq_some_iff, hnone] at hm
    cases hm
  have hlong : Arrives s.limit [.data (whole.take n), .data [13, 255]] (whole.take n ++ [13, 255]) :=
    arrives_chunks [whole.take n, [13, 255]] (by decide +kernel)
  have hwhole : Arrives s.limit [.data whole] whole := arrives_single (by decide +kernel)
  have hshort : Arrives s.limit [.data (whole.take (n - 1))] (whole.take (n - 1)) :=
    arrives_single (by decide +kernel)
  have hfront : ∀ q ∈ [(⟨"note", none, [7]⟩ : Part)], q.name = "file" → q.fileName = none := by
    decide
  have hall (k : Nat) := (handle_of_truncated s r ['x'] parts hposts k).1 [⟨"note", none, [7]⟩]
    ⟨"file", some "cat.png", [1, 2]⟩ [] "cat.png" rfl rfl rfl hfront
  exact ⟨hposts, ((hall n).1 (Nat.le_refl n) [13, 255] _ _ hlong hwhole).1,
    (hall (n - 1)).2 (by decide +kernel) _ hshort⟩

end Service

end Cutout
