import Cutout.Proofs.Http.MediaType
import Cutout.Proofs.Service.Limit
import Cutout.Proofs.Text.Number

/-!
# Lengths as they are written

A header gives the length of a body in decimal digits, as many of them as a client likes, and the service
reads numbers of 64 bits. Below that bound a written length above the limit is refused at once, on every
route and with every method; from that bound on the header counts for nothing, and the request is
answered as it would be without it (`Service.handle_of_writesLength`). So not every length above the
limit is refused (`Service.not_refused_of_writesLength`).
-/

namespace Cutout

open Http

namespace Http

/-- The character of a digit can stand in a token. -/
theorem isToken_of_isDigit {c : Char} (h : c.isDigit = true) : isToken c = true := by
  rw [isToken, Char.isAlphanum, h, Bool.or_true, Bool.true_or]

/-- A request writes the length of its body in these digits, in one header only. -/
structure WritesLength (r : Request) (digits : List Char) : Prop where
  ne_nil : digits ≠ []
  isDigit : ∀ d ∈ digits, d.isDigit = true
  only : ∃ front name rest,
    r.headers = front ++ ⟨name, Bytes.ofText (String.ofList digits)⟩ :: rest ∧
      Text.asciiLower name = "content-length" ∧
      ∀ h ∈ front ++ rest, Text.asciiLower h.name ≠ "content-length"

/-- A request without the headers that give the length of its body. -/
def Request.withoutLength (r : Request) : Request :=
  { r with headers := r.headers.filter fun h => Text.asciiLower h.name != "content-length" }

theorem Request.declaredLength?_withoutLength (r : Request) :
    r.withoutLength.declaredLength? = none := by
  have hnone : first? r.withoutLength.headers "content-length" = none := by
    rw [first?, Option.map_eq_none_iff, List.find?_eq_none]
    intro h hh
    have hname := (List.mem_filter.1 hh).2
    simpa using hname
  rw [declaredLength?, hnone]
  rfl

/-- The kind of a body is told by another header than its length. -/
theorem Request.first?_withoutLength (r : Request) {name : String} (h : name ≠ "content-length") :
    first? r.withoutLength.headers name = first? r.headers name := by
  unfold first? withoutLength
  rw [List.find?_filter]
  congr 1
  apply congrArg (fun p => List.find? p r.headers)
  funext g
  rw [Bool.decide_and, Bool.decide_eq_true, Bool.decide_eq_true]
  cases hg : Text.asciiLower g.name == name with
  | false => rw [Bool.and_false]
  | true =>
    have hother : Text.asciiLower g.name ≠ "content-length" := by
      rw [beq_iff_eq.1 hg]
      exact h
    rw [bne_iff_ne.2 hother, Bool.and_self]

theorem WritesLength.declaredLength?_eq {r : Request} {digits : List Char} (h : WritesLength r digits) :
    r.declaredLength? =
      if Text.digitsValue digits < 2 ^ 64 then some (Text.digitsValue digits) else none := by
  obtain ⟨front, name, rest, hheaders, hname, hother⟩ := h.only
  have htoken : IsTokenText digits := ⟨h.ne_nil, fun d hd => isToken_of_isDigit (h.isDigit d hd)⟩
  have hfirst : first? r.headers "content-length" = some (Bytes.ofText (String.ofList digits)) := by
    rw [first?_eq_some_iff, hheaders]
    let header : Header := ⟨name, Bytes.ofText (String.ofList digits)⟩
    refine ⟨header, ⟨hname, front, rest, rfl, ?_⟩, rfl⟩
    exact fun g hg => hother g (List.mem_append_left rest hg)
  have hvisible : visible? (Bytes.ofText (String.ofList ([] ++ digits))) = some ([] ++ digits) :=
    htoken.visible?_append fun _ hx => absurd hx List.not_mem_nil
  rw [List.nil_append] at hvisible
  rw [Request.declaredLength?, hfirst]
  show (visible? (Bytes.ofText (String.ofList digits))).bind (Text.natural? 64) = _
  rw [hvisible, Option.bind_some, Text.natural?_digits h.ne_nil h.isDigit]

end Http

namespace Service

variable {s : Service} {r : Request} {digits : List Char}

/-- Without the header for its length, a request brings the same file. -/
theorem uploadOf_withoutLength (limit : Nat) (r : Request) :
    Order.uploadOf limit r.withoutLength = Order.uploadOf limit r := by
  have hboundary : boundary? r.withoutLength.headers = boundary? r.headers := by
    unfold boundary?
    rw [r.first?_withoutLength (by decide)]
  unfold Order.uploadOf
  rw [hboundary]
  rfl

/-- The route of a request does not look at the header for its length. -/
theorem route_withoutLength [FurtherReaders] (s : Service) (r : Request) :
    s.route r.withoutLength = s.route r := by
  have hremove : s.remove r.withoutLength = s.remove r :=
    remove_congr rfl (uploadOf_withoutLength s.limit r)
  unfold route serve
  rw [hremove]
  rfl

/-- A written length that does not fit into 64 bits counts for nothing. -/
theorem handle_withoutLength [FurtherReaders] (h : WritesLength r digits)
    (hlarge : 2 ^ 64 ≤ Text.digitsValue digits) :
    s.handle r = s.handle r.withoutLength := by
  have hnone : s.excess? r = none := by
    rw [excess?, h.declaredLength?_eq, if_neg (Nat.not_lt.2 hlarge)]
    rfl
  have hnone' : s.excess? r.withoutLength = none := by
    rw [excess?, r.declaredLength?_withoutLength]
    rfl
  unfold handle
  rw [hnone, hnone']
  simp only [route_withoutLength]
  rfl

/-- A written length above the limit that fits into 64 bits is refused, whatever the service holds and
whatever the body is. -/
theorem handle_of_small [FurtherReaders] (h : WritesLength r digits)
    (hlimit : s.limit < Text.digitsValue digits)
    (hsmall : Text.digitsValue digits < 2 ^ 64) (slot : Slot) (pieces : List Piece) :
    (⟨slot, s.limit⟩ : Service).handle (r.withBody pieces) =
      let reply := Reply.declaredTooLong (Text.digitsValue digits) s.limit
      { reply with response := finish r reply.response } := by
  have hexcess : (⟨slot, s.limit⟩ : Service).excess? (r.withBody pieces) =
      some (Text.digitsValue digits) := by
    show r.declaredLength?.filter (fun n => decide (s.limit < n)) = _
    rw [h.declaredLength?_eq, if_pos hsmall, Option.filter_some, if_pos (decide_eq_true hlimit)]
  unfold handle
  rw [hexcess]
  rfl

/-- **Written lengths above the limit.** One that fits into 64 bits is refused as too large on every route
and with every method, without a look at the cutter or the body, and nothing is cut; only where just the
headers are asked for is the text of the refusal left out. A longer one is no length to the service: the
request is answered, logged and cut as if it had no such header. -/
theorem handle_of_writesLength [FurtherReaders] (s : Service) (r : Request) (digits : List Char)
    (h : WritesLength r digits) (hlimit : s.limit < Text.digitsValue digits) :
    (Text.digitsValue digits < 2 ^ 64 →
      (s.handle r).response = finish r (problem 413 "File too large.") ∧
        (s.handle r).response.status = 413 ∧
        (r.method ≠ "HEAD" → (s.handle r).response.body = (problem 413 "File too large.").body) ∧
        (s.handle r).cuts = [] ∧
        ∀ slot pieces, (⟨slot, s.limit⟩ : Service).handle (r.withBody pieces) = s.handle r) ∧
      (2 ^ 64 ≤ Text.digitsValue digits → s.handle r = s.handle r.withoutLength) := by
  constructor
  · intro hsmall
    have hself := handle_of_small h hlimit hsmall s.slot r.body
    have hreply : s.handle r =
        let reply := Reply.declaredTooLong (Text.digitsValue digits) s.limit
        { reply with response := finish r reply.response } := hself
    have hresponse : (s.handle r).response = finish r (problem 413 "File too large.") := by
      rw [hreply]
      rfl
    refine ⟨hresponse, ?_, ?_, ?_, ?_⟩
    · rw [hresponse, finish_status]
      rfl
    · intro hmethod
      rw [hresponse, finish_body hmethod]
    · rw [hreply]
      rfl
    · intro slot pieces
      rw [handle_of_small h hlimit hsmall slot pieces, hreply]
  · exact fun hlarge => handle_withoutLength h hlarge

/-- A question for the state of the service, with a written length. -/
def measured (digits : String) : Request :=
  ⟨"GET", ⟨Bytes.ofAscii "/health", none⟩, [⟨"Content-Length", Bytes.ofText digits⟩], []⟩

theorem writesLength_measured {digits : String} (hne : digits.toList ≠ [])
    (hdigits : digits.toList.all Char.isDigit = true) :
    WritesLength (measured digits) digits.toList := by
  refine ⟨hne, List.all_eq_true.1 hdigits, [], "Content-Length", [], ?_, by decide, nofun⟩
  rw [String.ofList_toList]
  rfl

/-- The largest number of 64 bits is refused, with zeros in front of it too. The next one is not seen, and
the question is answered as if it had no length. -/
theorem handle_of_writesLength_at_word :
    let s : Service := ⟨.loading "u2net", 10⟩
    let refused := s.handle (measured "0018446744073709551615")
    refused.response = problem 413 "File too large." ∧
      refused.log = [⟨.warn, "bg_remove_service::server::middleware",
        "Rejected 18446744073709551615 byte body (limit 10 bytes)"⟩] ∧
      refused.cuts = [] ∧
      s.handle (measured "18446744073709551616") =
        s.handle ⟨"GET", ⟨Bytes.ofAscii "/health", none⟩, [], []⟩ := by
  intro s refused
  have hlast : WritesLength (measured "0018446744073709551615") _ :=
    writesLength_measured (by decide) (by decide)
  have hnext : WritesLength (measured "18446744073709551616") _ :=
    writesLength_measured (by decide) (by decide)
  obtain ⟨hresponse, -, -, hcuts, -⟩ :=
    (handle_of_writesLength s _ _ hlast (by decide +kernel)).1 (by decide +kernel)
  refine ⟨?_, by decide +kernel, hcuts, ?_⟩
  · apply hresponse.trans
    decide +kernel
  · exact (handle_of_writesLength s _ _ hnext (by decide +kernel)).2 (by decide +kernel)

/-- Not every written length above the limit is refused: one of more than 64 bits is not seen, and the
question for the state of the service is answered. -/
theorem not_refused_of_writesLength :
    (¬ ∀ (s : Service) (r : Request) (digits : List Char), WritesLength r digits →
        s.limit < Text.digitsValue digits → (s.handle r).response.status = 413) ∧
      ((⟨.loading "u2net", 10⟩ : Service).handle (measured "18446744073709551616")).response =
        condition 503 "loading" "u2net" := by
  have hanswer : ((⟨.loading "u2net", 10⟩ : Service).handle
      (measured "18446744073709551616")).response = condition 503 "loading" "u2net" := by
    decide +kernel
  refine ⟨fun hall => ?_, hanswer⟩
  have hstatus := hall ⟨.loading "u2net", 10⟩ (measured "18446744073709551616") _
    (writesLength_measured (by decide) (by decide)) (by decide +kernel)
  rw [hanswer] at hstatus
  exact absurd hstatus (by decide)

end Service

end Cutout
