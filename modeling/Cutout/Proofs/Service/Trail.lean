import Cutout.Proofs.Service.Run
import Cutout.Proofs.Service.Telling

/-!
# The trail of a request

What a request leaves in the log can be told from its answer. `Trail` says row by row what belongs to
which answer; the rows exclude each other (`Trail.unique`), and the service logs what the row of its
answer says (`Service.handle_trail`). So the text that a client is told and the one in the log are the
same, whatever a cutter has put into it, and an entry that a cut has begun is followed by the one that
closes it, and by nothing else.
-/

namespace Cutout

open Http

/-! ## Entries about cuts -/

namespace LogEntry

/-- The entry has this level, and its text begins like this. -/
def begins (e : LogEntry) (level : Level) (beginning : String) : Bool :=
  e.level == level && beginning.toList.isPrefixOf e.message.toList

/-- The entry says that a cut begins. -/
def opensCut (e : LogEntry) : Bool :=
  e.begins .info "Processing "

/-- The entry says that a cut has ended, with an image or without. -/
def closesCut (e : LogEntry) : Bool :=
  e.begins .info "Done: " || e.begins .error "Processing failed for "

theorem begins_append (level : Level) (target beginning rest : String) :
    begins ⟨level, target, beginning ++ rest⟩ level beginning = true := by
  simp [begins, String.toList_append]

/-- An entry does not begin like another one if neither beginning goes on like the other. -/
theorem begins_append_other {level : Level} {other beginning : String}
    (h : other.toList.isPrefixOf beginning.toList = false)
    (h' : beginning.toList.isPrefixOf other.toList = false) (target rest : String) :
    begins ⟨level, target, beginning ++ rest⟩ level other = false := by
  have hprefix : ¬ other.toList <+: beginning.toList ++ rest.toList := by
    intro hother
    rcases List.prefix_or_prefix_of_prefix hother (List.prefix_append ..) with hp | hp
    · rw [← List.isPrefixOf_iff_prefix, h] at hp
      cases hp
    · rw [← List.isPrefixOf_iff_prefix, h'] at hp
      cases hp
  rw [← List.isPrefixOf_iff_prefix] at hprefix
  simp [begins, String.toList_append, hprefix]

end LogEntry

/-- Every entry about the beginning of a cut is followed by the one about its end, and there are no
other entries about ends. -/
inductive IsClosed : List LogEntry → Prop
  | nil : IsClosed []
  | aside {e : LogEntry} {log : List LogEntry} : e.opensCut = false → e.closesCut = false →
      IsClosed log → IsClosed (e :: log)
  | cut {first last : LogEntry} {log : List LogEntry} : first.opensCut = true →
      first.closesCut = false → last.opensCut = false → last.closesCut = true →
      IsClosed log → IsClosed (first :: last :: log)

theorem IsClosed.append {log log' : List LogEntry} (h : IsClosed log) (h' : IsClosed log') :
    IsClosed (log ++ log') := by
  induction h with
  | nil => exact h'
  | aside hopens hcloses _ ih => exact .aside hopens hcloses ih
  | cut hopens hcloses hopens' hcloses' _ ih => exact .cut hopens hcloses hopens' hcloses' ih

/-- The entry about the beginning of a cut. -/
def opening (u : Multipart.Upload) (into : Container) : LogEntry :=
  ⟨.info, Reply.uploads, "Processing " ++ u.name ++ " (" ++ Decimal.tenths u.content.length 1024 ++
    " KB), output=" ++ into.name⟩

theorem opening_opensCut (u : Multipart.Upload) (into : Container) :
    (opening u into).opensCut = true ∧ (opening u into).closesCut = false := by
  have hmessage : opening u into = ⟨.info, Reply.uploads, "Processing " ++ (u.name ++ (" (" ++
      (Decimal.tenths u.content.length 1024 ++ (" KB), output=" ++ into.name))))⟩ := by
    simp only [opening, String.append_assoc]
  rw [hmessage]
  refine ⟨LogEntry.begins_append .., ?_⟩
  unfold LogEntry.closesCut
  rw [LogEntry.begins_append_other (by decide) (by decide)]
  rfl

theorem closing_closesCut (name d : String) :
    let failed : LogEntry :=
      ⟨.error, Reply.uploads, "Processing failed for " ++ name ++ ": " ++ d⟩
    let done : LogEntry := ⟨.info, Reply.uploads, "Done: " ++ name ++ " -> " ++ d⟩
    (failed.opensCut = false ∧ failed.closesCut = true) ∧
      (done.opensCut = false ∧ done.closesCut = true) := by
  intro failed done
  have hfailed : failed.begins .error "Processing failed for " = true := by
    simp only [failed, String.append_assoc]
    exact LogEntry.begins_append ..
  have hdone : done.begins .info "Done: " = true := by
    simp only [done, String.append_assoc]
    exact LogEntry.begins_append ..
  have hother : done.begins .info "Processing " = false := by
    simp only [done, String.append_assoc]
    exact LogEntry.begins_append_other (by decide) (by decide) _ _
  exact ⟨⟨rfl, by rw [LogEntry.closesCut, hfailed, Bool.or_true]⟩, hother,
    by rw [LogEntry.closesCut, hdone, Bool.true_or]⟩

/-! ## Trails -/

/-- The entries that belong to an answer to a request. -/
inductive Trail (s : Service) (r : Request) (a : Response) : List LogEntry → Prop
  /-- Unknown paths and methods, the state of the slot, and a slot without a cutter. -/
  | quiet : a.status ∈ [404, 405, 503] ∨
      (a.status = 200 ∧ a.contentType = some "application/json") → Trail s r a []
  | declared {n : Nat} : a.status = 413 → Declares r n → s.limit < n →
      Trail s r a [⟨.warn, Reply.gateway,
        "Rejected " ++ toString n ++ " byte body (limit " ++ toString s.limit ++ " bytes)"⟩]
  | refused {m : String} :
      a.status = 400 ∨ (a.status = 413 ∧ ∀ n, Declares r n → n ≤ s.limit) →
      a.Tells [("error", m)] →
      Trail s r a [⟨.warn, Reply.uploads, "Rejected request: " ++ m⟩]
  | crashed {c : Cutter} {crash : Crash} : a.status = 500 →
      a.Tells [("error", "Internal server error.")] → s.slot.cutter = some c →
      c.name = .error crash →
      Trail s r a [⟨.error, Reply.gateway, "Unhandled server error: " ++ crash.message⟩]
  | failed {u : Multipart.Upload} {into : Container} {d : String} : a.status = 500 →
      a.Tells [("error", "Processing failed: " ++ d)] → Carries s.limit r (some u) → AsksFor r into →
      Trail s r a [opening u into,
        ⟨.error, Reply.uploads, "Processing failed for " ++ u.name ++ ": " ++ d⟩]
  | done {u : Multipart.Upload} {into : Container} : a.status = 200 →
      a.contentType = some into.mediaType → Carries s.limit r (some u) → AsksFor r into →
      Trail s r a [opening u into,
        ⟨.info, Reply.uploads, "Done: " ++ u.name ++ " -> " ++ into.name⟩]

/-! ## Trails are told apart by their answers -/

/-- A request asks for one container. -/
theorem AsksFor.unique {r : Request} {c d : Container} (hc : AsksFor r c) (hd : AsksFor r d) :
    c = d :=
  Except.ok.inj ((Order.containerOf_eq_ok_iff.2 hc).symm.trans (Order.containerOf_eq_ok_iff.2 hd))

theorem Http.Declares.unique {r : Request} {m n : Nat} (hm : Declares r m) (hn : Declares r n) : m = n :=
  Option.some.inj ((declaredLength?_eq_some_iff.2 hm).symm.trans (declaredLength?_eq_some_iff.2 hn))

/-- The text of a failed cut is not the one of a crash elsewhere. -/
theorem failed_ne_internal (d : String) : "Processing failed: " ++ d ≠ "Internal server error." := by
  intro h
  have hlist := congrArg String.toList h
  rw [String.toList_append] at hlist
  exact absurd hlist (by simp)

namespace Trail

variable {s : Service} {r : Request} {a : Response}

/-- **An answer leaves no choice for its entries.** The rows for different entries need different
answers: their statuses differ, or their texts, or their media types. -/
theorem unique {log log' : List LogEntry} (h : Trail s r a log) (h' : Trail s r a log') :
    log = log' := by
  have htext {m m' : String} (hm : a.Tells [("error", m)]) (hm' : a.Tells [("error", m')]) :
      m = m' := by
    simpa using hm.unique hm'
  have hupload {u u' : Multipart.Upload} (hu : Carries s.limit r (some u))
      (hu' : Carries s.limit r (some u')) : u = u' :=
    Option.some.inj (hu.unique hu')
  cases h with
  | quiet hquiet =>
    cases h' with
    | quiet => rfl
    | @done _ into => grind [Container.mediaType_ne_json into]
    | declared | refused | crashed | failed => grind
  | declared hstatus hn hlt =>
    cases h' with
    | declared hstatus' hn' => rw [hn.unique hn']
    | refused hstatus' =>
      rcases hstatus' with hstatus' | ⟨-, hwithin⟩
      · omega
      · exact absurd (hwithin _ hn) (Nat.not_le.2 hlt)
    | quiet | crashed | failed | done => grind
  | refused hstatus hm =>
    cases h' with
    | declared hstatus' hn' hlt' =>
      rcases hstatus with hstatus | ⟨-, hwithin⟩
      · omega
      · exact absurd (hwithin _ hn') (Nat.not_le.2 hlt')
    | refused hstatus' hm' => rw [htext hm hm']
    | quiet | crashed | failed | done => grind
  | crashed hstatus hm hc hname =>
    cases h' with
    | crashed hstatus' hm' hc' hname' =>
      obtain rfl := Option.some.inj (hc.symm.trans hc')
      rw [Except.error.inj (hname.symm.trans hname')]
    | failed hstatus' hm' => exact absurd (htext hm' hm) (failed_ne_internal _)
    | quiet | declared | refused | done => grind
  | failed hstatus hm hu hinto =>
    cases h' with
    | crashed hstatus' hm' => exact absurd (htext hm hm') (failed_ne_internal _)
    | failed hstatus' hm' hu' hinto' =>
      rw [hupload hu hu', hinto.unique hinto', (String.append_right_inj _).1 (htext hm hm')]
    | quiet | declared | refused | done => grind
  | @done _ into hstatus htype hu hinto =>
    cases h' with
    | quiet => grind [Container.mediaType_ne_json into]
    | done hstatus' htype' hu' hinto' => rw [hupload hu hu', hinto.unique hinto']
    | declared | refused | crashed | failed => grind

end Trail

/-! ## The trail of a request -/

namespace Order

/-- The entries about an order belong to its answer. -/
theorem fill_trail [FurtherReaders] {s : Service} {r : Request} {o : Order}
    (ho : ofRequest s.slot s.limit r = .ok o) : Trail s r o.fill.response o.fill.log := by
  obtain ⟨hu, hinto, hslot⟩ := ofRequest_eq_ok_iff.1 ho
  have hcarries := (uploadOf_eq_ok_iff.1 hu).1
  have hinto := containerOf_eq_ok_iff.1 hinto
  cases hname : o.cutter.name with
  | error crash =>
    rw [fill_of_crash hname]
    exact .crashed rfl (Refusal.tells_response .internal) hslot hname
  | ok name =>
    cases hprocess : o.cutter.process o.upload.content o.into with
    | error m =>
      rw [fill_of_mishap hname hprocess]
      exact .failed rfl (Refusal.tells_response (.failed m.message)) hcarries hinto
    | ok image =>
      rw [fill_of_image hname hprocess]
      exact .done rfl rfl hcarries hinto

end Order

/-- The entry about a refusal belongs to its answer, if the request was not refused for its declared
length. -/
theorem Reply.refused_trail {s : Service} {r : Request} {e : Refusal} (hstatus : e.status ≠ 500)
    (hwithin : ∀ n, Declares r n → n ≤ s.limit) :
    Trail s r (Reply.refused e).response (Reply.refused e).log := by
  have htells := e.tells_response
  cases e with
  | missingFile | emptyFileName | unknownContainer | malformed => exact .refused (.inl rfl) htells
  | tooLarge => exact .refused (.inr ⟨rfl, hwithin⟩) htells
  | loading => exact .quiet (.inl (by decide))
  | failed | internal => exact absurd rfl hstatus

namespace Service

variable {s : Service} {r : Request}

theorem within_of_goesThrough (h : GoesThrough s r) : ∀ n, Declares r n → n ≤ s.limit := by
  intro n hn
  by_contra hlt
  have hexcess := excess?_eq_some_iff.2 ⟨hn, Nat.not_le.1 hlt⟩
  rw [h.length] at hexcess
  cases hexcess

/-- The entries of a reply belong to its answer as its route finishes it. -/
theorem reply_trail [FurtherReaders] {reply : Reply} (h : IsReplyTo s r reply) :
    Trail s r (finish r reply.response) reply.log := by
  cases h with
  | declared hn hlt => exact .declared (finish_status ..) hn hlt
  | health =>
    refine .quiet ?_
    rw [finish_status, finish_contentType]
    rcases health_status s with ⟨hstatus, -⟩ | ⟨hstatus, -⟩
    · exact .inr ⟨hstatus, rfl⟩
    · refine .inl ?_
      show s.health.status ∈ _
      rw [hstatus]
      decide
  | empty hstatus =>
    refine .quiet (.inl ?_)
    rw [finish_status]
    rcases hstatus with rfl | rfl <;> decide
  | refused hthrough ho =>
    rw [finish_of_goesThrough hthrough]
    exact Reply.refused_trail (Order.ofRequest_error_status ho) (within_of_goesThrough hthrough)
  | filled hthrough ho =>
    rw [finish_of_goesThrough hthrough]
    exact Order.fill_trail ho

/-- Every trail is about one cut or none. -/
theorem isClosed_of_trail {a : Response} {log : List LogEntry} (h : Trail s r a log) :
    IsClosed log := by
  cases h with
  | quiet => exact .nil
  | declared | refused => exact .aside rfl rfl .nil
  | crashed =>
    refine .aside rfl ?_ .nil
    unfold LogEntry.closesCut
    rw [LogEntry.begins_append_other (by decide) (by decide)]
    rfl
  | @failed u into d =>
    obtain ⟨hfirst, hfirst'⟩ := opening_opensCut u into
    obtain ⟨⟨hlast, hlast'⟩, -⟩ := closing_closesCut u.name d
    exact .cut hfirst hfirst' hlast hlast' .nil
  | @done u into =>
    obtain ⟨hfirst, hfirst'⟩ := opening_opensCut u into
    obtain ⟨-, hlast, hlast'⟩ := closing_closesCut u.name into.name
    exact .cut hfirst hfirst' hlast hlast' .nil

/-- The entries of a request belong to its answer. -/
theorem handle_log_trail [FurtherReaders] (s : Service) (r : Request) :
    Trail s r (s.handle r).response (s.handle r).log := by
  obtain ⟨reply, hreply, heq⟩ := exists_reply s r
  rw [heq]
  exact reply_trail hreply

/-! ## The log of a run -/

/-- The entries that an event leads to. -/
def log : Outcome → List LogEntry
  | .replied _ reply => reply.log
  | .installed _ | .rejected _ _ => []

theorem isClosed_step [FurtherReaders] (s : Service) (e : Event) : IsClosed (log (s.step e).2) := by
  rcases step_cases s e with ⟨r, -, heq⟩ | ⟨c, -, -, heq⟩ | ⟨c, d, -, -, heq⟩
  · rw [heq]
    exact isClosed_of_trail (handle_log_trail s r)
  · rw [heq]
    exact .nil
  · rw [heq]
    exact .nil

/-- In the log of a run every cut is closed before the next one is opened. -/
theorem isClosed_run [FurtherReaders] (s : Service) (events : List Event) :
    IsClosed ((s.run events).flatMap log) := by
  induction events generalizing s with
  | nil => exact .nil
  | cons e events ih =>
    rw [run, List.flatMap_cons]
    exact (isClosed_step s e).append (ih _)

/-- **The log tells what the client is told.** The entries of a request belong to its answer, in every
state of the slot, and no others would: so they are settled by the answer, and their texts are the
ones that the client gets. Over a run, every entry about the beginning of a cut is followed by the one
about its end. -/
theorem handle_trail [FurtherReaders] (s : Service) :
    (∀ r, Trail s r (s.handle r).response (s.handle r).log ∧
        ∀ log, Trail s r (s.handle r).response log → (s.handle r).log = log) ∧
      ∀ events, IsClosed ((s.run events).flatMap log) := by
  refine ⟨fun r => ?_, isClosed_run s⟩
  have htrail := handle_log_trail s r
  exact ⟨htrail, fun log hlog => htrail.unique hlog⟩

/-- A cutter crashes with a text of two lines: the answer and the log both have all of it. -/
theorem handle_trail_of_crash :
    let c : Cutter := ⟨.ok "u2net", fun _ => .error (.crash (.saying "bad\nluck"))⟩
    let s : Service := ⟨⟨"u2net", some c⟩, 1000⟩
    (s.handle oneFile).response = problem 500 "Processing failed: bad\nluck" ∧
      (s.handle oneFile).log = [opening ⟨"cat.png", [1]⟩ .png,
        ⟨.error, Reply.uploads, "Processing failed for cat.png: bad\nluck"⟩] ∧
      IsClosed ((s.run [.request oneFile, .request oneFile]).flatMap log) := by
  intro c s
  have hthrough : GoesThrough s oneFile := ⟨rfl, rfl, rfl⟩
  have hremove : s.remove oneFile = Order.fill ⟨⟨⟨"cat.png", [1]⟩, .png⟩, c⟩ :=
    remove_of_draft uploadOf_oneFile rfl
  have hresponse : (s.handle oneFile).response = problem 500 "Processing failed: bad\nluck" := by
    rw [handle_of_goesThrough hthrough, hremove]
    rfl
  have htrail : Trail s oneFile (problem 500 "Processing failed: bad\nluck")
      [opening ⟨"cat.png", [1]⟩ .png,
        ⟨.error, Reply.uploads, "Processing failed for cat.png: bad\nluck"⟩] :=
    .failed rfl (Refusal.tells_response (.failed "bad\nluck"))
      (Order.uploadOf_eq_ok_iff.1 uploadOf_oneFile).1 (Order.containerOf_eq_ok_iff.1 rfl)
  obtain ⟨hrequests, hruns⟩ := handle_trail s
  rw [← hresponse] at htrail
  exact ⟨hresponse, (hrequests oneFile).2 _ htrail, hruns _⟩

end Service

end Cutout
