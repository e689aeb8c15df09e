/-
Lines that are parsed when they are asked for.

Two things are kept on the way: the data of a line, and the definition of a
kind. Neither may show. An access is therefore compared with what a parser
makes of the text of the line that is made for it alone (`Line.parsed`), by
the cache as it was at the start.

A line that was loaded has the data that its text would be parsed to again
(`Line.Sound`), and a cache that was asked is like the one before. So a step
answers as expected and leaves lines that are sound, with nothing changed
but the data (`Session.step_follows`), and what is expected of the lines
after it is what was expected before (`Session.Follows.expected`). A session
is a list of steps.
-/
import Logline.Proofs.Log.Loading
import Logline.Proofs.Parser.Cache

namespace Logline

/-- The result, if there is one. -/
def Outcome.result? {α : Type} : Outcome α → Option α
  | .ok a => some a
  | _ => none

namespace Line

-- ========================================================== accesses

/-- What a line is asked for. -/
inductive Access where
  | data
  | get (key : Key)
  | attr (name : String) (args : List Value)
  | set (key : Key) (value : Value)

/-- What a line answers. -/
inductive Answer where
  | data (outcome : Outcome Data)
  | get (outcome : Outcome (Option Value))
  | attr (outcome : Outcome Value)
  | set (result : Except Error Unit)

/-- Whether an access needs the data of the line. -/
def Access.reads : Access → Bool
  | .set _ _ => false
  | _ => true

/-- The answer to an access for what the line is parsed to. -/
def Access.answer (outcome : Outcome Data) : Access → Answer
  | .data => .data outcome
  | .get key => .get (outcome.bind fun data => .ok (data.get? key))
  | .attr name args =>
    .attr (outcome.bind fun data => .ofExcept (data.attr name args))
  | .set _ _ => .set (.error (.modification .line))

/-- The answer of a line, the line and the cache after it. -/
def access (depth : Nat) (l : Line) (cache : ParserCache) :
    Access → Answer × Line × ParserCache
  | .data =>
    let reply := l.load depth cache
    (.data reply.outcome, reply.line, reply.cache)
  | .get key =>
    let reply := l.get depth cache key
    (.get reply.outcome, reply.line, reply.cache)
  | .attr name args =>
    let reply := l.attr depth cache name args
    (.attr reply.outcome, reply.line, reply.cache)
  | .set key value => (.set (l.set key value), l, cache)

-- ============================================================ parses

/-- What the text of a line comes to with a parser of its own. -/
def parsed (depth : Nat) (l : Line) (cache : ParserCache) : Outcome Data :=
  match (LineParser.ofOptions l.text l.options cache).1 with
  | .error cause => .failed cause
  | .ok parser => (parser.parse depth).outcome

/-- The line with the data that it is parsed to. -/
def filled (depth : Nat) (cache : ParserCache) (l : Line) : Line :=
  { l with data := (l.parsed depth cache).result? }

/-- The data of a line is what its text would be parsed to. -/
def Sound (depth : Nat) (cache : ParserCache) (l : Line) : Prop :=
  ∀ data, l.data = some data → l.parsed depth cache = .ok data

section

variable {depth : Nat} {a b : ParserCache} {l : Line}

theorem parsed_alike (h : a.Alike b) (l : Line) :
    l.parsed depth b = l.parsed depth a := by
  unfold parsed LineParser.ofOptions
  dsimp only
  rw [Options.resolve_alike h]

theorem sound_filled (l : Line) : (l.filled depth a).Sound depth a := by
  intro data hdata
  have hparsed : (l.filled depth a).parsed depth a = l.parsed depth a := rfl
  rw [hparsed]
  unfold filled at hdata
  generalize l.parsed depth a = outcome at hdata ⊢
  cases outcome with
  | ok result => exact congrArg Outcome.ok (Option.some.inj hdata)
  | failed cause => cases hdata
  | exhausted => cases hdata

theorem Sound.alike (h : a.Alike b) (hsound : l.Sound depth a) :
    l.Sound depth b := by
  intro data hdata
  rw [parsed_alike h]
  exact hsound data hdata

theorem filled_alike (h : a.Alike b) (l : Line) :
    l.filled depth b = l.filled depth a := by
  unfold filled
  rw [parsed_alike h]

/-- Loading a line without data parses its text and fills it. -/
theorem load_of_empty (h : l.data = none) :
    l.load depth b
      = ⟨l.parsed depth b, l.filled depth b, (l.options.resolve b).2⟩ := by
  obtain ⟨number, text, options, data⟩ := l
  cases h
  unfold load filled parsed LineParser.ofOptions
  dsimp only
  rcases options.resolve b with ⟨cause | kind, cache⟩
  · rfl
  · dsimp only [Except.map]
    cases ((LineParser.make kind text options).parse depth).outcome with
    | ok data => rfl
    | failed cause => rfl
    | exhausted => rfl

/-- A line that is sound and has data is filled already. -/
theorem filled_of_data {data : Data} (hsound : l.Sound depth a)
    (h : l.data = some data) : l.filled depth a = l := by
  unfold filled
  rw [hsound data h]
  obtain ⟨number, text, options, kept⟩ := l
  cases h
  rfl

/-- Loading a line comes to what its text is parsed to, and fills it. -/
theorem load_eq (h : a.Alike b) (hsound : l.Sound depth a) :
    (l.load depth b).outcome = l.parsed depth a
      ∧ (l.load depth b).line = l.filled depth a
      ∧ a.Alike (l.load depth b).cache := by
  cases hdata : l.data with
  | some data =>
      have hload : l.load depth b = ⟨.ok data, l, b⟩ := by
        unfold load
        rw [hdata]
      rw [hload, filled_of_data hsound hdata]
      exact ⟨(hsound data hdata).symm, rfl, h⟩
  | none =>
      rw [load_of_empty hdata]
      unfold filled
      rw [parsed_alike h]
      exact ⟨rfl, rfl, h.trans (l.options.alike_resolve b)⟩

/-- An access is answered for what the text of the line is parsed to. -/
theorem access_eq (h : a.Alike b) (hsound : l.Sound depth a)
    (access : Access) :
    (l.access depth b access).1 = access.answer (l.parsed depth a)
      ∧ (l.access depth b access).2.1
        = (if access.reads then l.filled depth a else l)
      ∧ a.Alike (l.access depth b access).2.2 := by
  obtain ⟨houtcome, hline, hcache⟩ := load_eq h hsound
  cases access with
  | data => exact ⟨congrArg Answer.data houtcome, hline, hcache⟩
  | get key =>
      refine ⟨?_, hline, hcache⟩
      rw [← houtcome]
      rfl
  | attr name args =>
      refine ⟨?_, hline, hcache⟩
      rw [← houtcome]
      rfl
  | set key value => exact ⟨rfl, rfl, h⟩

end

end Line

-- ========================================================== sessions

namespace Log

/-- What happens while a log is read: its lines are asked, and others look
kinds up in the cache. -/
inductive Access where
  | line (place : Nat) (access : Line.Access)
  | define (selector : String)

/-- What is answered. There may be no line of a place. -/
inductive Answer where
  | absent
  | line (answer : Line.Answer)
  | defined (kind : Except Error ParserKind)

/-- Whether an access needs the data of the line of a place. -/
def Access.readsAt (place : Nat) : Access → Bool
  | .line other access => other == place && access.reads
  | .define _ => false

end Log

/-- The lines of a log, and the cache of kinds, while they are asked. -/
structure Session where
  lines : List Line
  cache : ParserCache

namespace Session

/-- One access: its answer, and the session after it. -/
def step (depth : Nat) (s : Session) : Log.Access → Log.Answer × Session
  | .line place access =>
    match s.lines[place]? with
    | none => (.absent, s)
    | some l =>
      let (answer, l, cache) := l.access depth s.cache access
      (.line answer, ⟨s.lines.set place l, cache⟩)
  | .define selector =>
    let (found, cache) := s.cache.getOrDefine selector
    (.defined (found.map Definition.kind), { s with cache := cache })

/-- Accesses, one after the other. -/
def run (depth : Nat) : List Log.Access → Session → List Log.Answer × Session
  | [], s => ([], s)
  | access :: rest, s =>
    let (answer, s) := s.step depth access
    let (answers, s) := run depth rest s
    (answer :: answers, s)

/-- The answer that is expected: that of a parser made for the text of the
line alone. -/
def expected (depth : Nat) (s : Session) : Log.Access → Log.Answer
  | .line place access =>
    match s.lines[place]? with
    | none => .absent
    | some l => .line (access.answer (l.parsed depth s.cache))
  | .define selector => .defined (s.cache.kindOf selector)

/-- A session whose lines are sound. -/
def Sound (depth : Nat) (s : Session) : Prop :=
  ∀ l ∈ s.lines, l.Sound depth s.cache

/-- A session that comes from another by accesses: lines that were read are
filled, by a cache that comes to the same kinds. -/
structure Follows (depth : Nat) (accesses : List Log.Access)
    (s t : Session) : Prop where
  cache : s.cache.Alike t.cache
  lines : ∀ place, t.lines[place]? = s.lines[place]?.map fun l =>
    if accesses.any (·.readsAt place) then l.filled depth s.cache else l

section

variable {depth : Nat} {s t u : Session} {accesses : List Log.Access}

theorem Follows.refl (s : Session) : s.Follows depth [] s where
  cache := .refl _
  lines place := (Option.map_id' (x := s.lines[place]?)).symm

theorem Follows.trans {more : List Log.Access}
    (h : s.Follows depth accesses t) (h' : t.Follows depth more u) :
    s.Follows depth (accesses ++ more) u where
  cache := h.cache.trans h'.cache
  lines place := by
    rw [h'.lines, h.lines, Option.map_map]
    congr 1
    funext l
    rw [List.any_append]
    dsimp only [Function.comp]
    rw [Line.filled_alike h.cache]
    -- a line that was filled before is filled with the same again
    cases accesses.any (·.readsAt place) <;>
      cases more.any (·.readsAt place) <;> rfl

theorem Follows.length (h : s.Follows depth accesses t) :
    t.lines.length = s.lines.length := by
  have hnone : ∀ place, t.lines.length ≤ place ↔ s.lines.length ≤ place := by
    intro place
    rw [← List.getElem?_eq_none_iff, ← List.getElem?_eq_none_iff, h.lines,
      Option.map_eq_none_iff]
  exact Nat.le_antisymm ((hnone _).mpr (Nat.le_refl _))
    ((hnone _).mp (Nat.le_refl _))

/-- Accesses leave sound lines sound. -/
theorem Follows.sound (h : s.Follows depth accesses t)
    (hsound : s.Sound depth) : t.Sound depth := by
  intro l hl
  obtain ⟨place, hplace⟩ := List.getElem?_of_mem hl
  rw [h.lines] at hplace
  obtain ⟨l', hl', rfl⟩ := Option.map_eq_some_iff.mp hplace
  refine Line.Sound.alike h.cache ?_
  split
  · exact Line.sound_filled l'
  · exact hsound l' (List.mem_of_getElem? hl')

/-- What is expected of lines does not depend on what was asked before. -/
theorem Follows.expected (h : s.Follows depth accesses t)
    (access : Log.Access) :
    t.expected depth access = s.expected depth access := by
  cases access with
  | define selector =>
      exact congrArg Log.Answer.defined (h.cache selector)
  | line place access =>
      have hlines := h.lines place
      unfold Session.expected
      dsimp only
      rw [hlines]
      cases s.lines[place]? with
      | none => rfl
      | some l =>
          have hparsed : ∀ l' : Line,
              (if accesses.any (·.readsAt place) then l.filled depth s.cache
                else l) = l' →
              l'.parsed depth t.cache = l.parsed depth s.cache := by
            rintro _ rfl
            rw [Line.parsed_alike h.cache]
            split <;> rfl
          dsimp only [Option.map]
          rw [hparsed _ rfl]

/-- A step answers as expected and fills the line that it reads. -/
theorem step_follows (h : s.Sound depth) (access : Log.Access) :
    (s.step depth access).1 = s.expected depth access
      ∧ s.Follows depth [access] (s.step depth access).2 := by
  cases access with
  | define selector =>
      exact ⟨rfl, s.cache.alike_getOrDefine selector,
        fun place => (Option.map_id' (x := s.lines[place]?)).symm⟩
  | line place access =>
      have helse : ∀ other, place ≠ other →
          s.lines[other]? = s.lines[other]?.map fun l =>
            if [Log.Access.line place access].any (·.readsAt other) then
              l.filled depth s.cache else l := by
        intro other hother
        simp [Log.Access.readsAt, hother]
      unfold step Session.expected
      dsimp only
      cases hl : s.lines[place]? with
      | none =>
          refine ⟨rfl, .refl _, fun other => ?_⟩
          by_cases hother : place = other
          · rw [← hother, hl]
            rfl
          · exact helse other hother
      | some l =>
          have hmem : l ∈ s.lines := List.mem_of_getElem? hl
          have hplace := (List.getElem?_eq_some_iff.mp hl).1
          obtain ⟨hanswer, hline, hcache⟩ :=
            Line.access_eq (.refl s.cache) (h l hmem) access
          refine ⟨congrArg Log.Answer.line hanswer, hcache, fun other => ?_⟩
          dsimp only
          rw [hline, List.getElem?_set]
          by_cases hother : place = other
          · subst hother
            rw [if_pos rfl, if_pos hplace, hl]
            simp [Log.Access.readsAt]
          · rw [if_neg hother]
            exact helse other hother

/-- Accesses are answered as expected at their start. -/
theorem run_follows (h : s.Sound depth) (accesses : List Log.Access) :
    (run depth accesses s).1 = accesses.map (s.expected depth)
      ∧ s.Follows depth accesses (run depth accesses s).2 := by
  induction accesses generalizing s with
  | nil => exact ⟨rfl, .refl s⟩
  | cons access rest ih =>
      obtain ⟨hanswer, hstep⟩ := step_follows h access
      obtain ⟨hanswers, hrest⟩ := ih (hstep.sound h)
      refine ⟨?_, hstep.trans hrest⟩
      have hsame : rest.map ((s.step depth access).2.expected depth)
          = rest.map (s.expected depth) :=
        List.map_congr_left fun later _ => hstep.expected later
      unfold run
      dsimp only
      rw [hanswer, hanswers, hsame, List.map_cons]

/-- A write is refused and leaves everything as it is. -/
theorem step_set (s : Session) (depth place : Nat) (key : Key)
    (value : Value) :
    s.step depth (.line place (.set key value))
      = (if place < s.lines.length then
          .line (.set (.error (.modification .line))) else .absent, s) := by
  unfold step
  dsimp only
  cases hl : s.lines[place]? with
  | none =>
      rw [if_neg (Nat.not_lt.mpr (List.getElem?_eq_none_iff.mp hl))]
  | some l =>
      obtain ⟨hplace, rfl⟩ := List.getElem?_eq_some_iff.mp hl
      have hback : s.lines.set place s.lines[place] = s.lines :=
        List.set_getElem_self hplace
      rw [if_pos hplace]
      unfold Line.access
      dsimp only
      rw [hback]
      rfl

end

end Session

-- ============================================================= logs

namespace Log

/-- Logs as they are loaded, and loaded again. -/
inductive Loaded : Log → Prop where
  | ofText (text : String) (options : Options) : Loaded (ofText text options)
  | ofBytes {bytes : List UInt8} {failure : Option String}
      {options : Options} {log : Log}
      (h : ofBytes bytes failure options = .ok log) : Loaded log
  | openPath {files : FileSystem} {path : String} {options : Options}
      {log : Log} (h : openPath files path options = .ok log) : Loaded log
  | refreshed {log : Log} (files : FileSystem) (h : Loaded log) :
      Loaded (refresh files log).2

/-- A log that is read has the lines of texts, numbered in their order. -/
theorem readLines_ok {options : Options} {bytes : List UInt8}
    {failure : Option String} {lines : List Line}
    (h : readLines options bytes failure = .ok lines) :
    lines = number options (byteLines bytes) := by
  unfold readLines at h
  cases failure with
  | some reason => cases h
  | none => exact (Except.ok.inj h).symm

theorem readPath_ok {files : FileSystem} {path : String} {options : Options}
    {lines : List Line} (h : readPath files path options = .ok lines) :
    ∃ texts, lines = number options texts := by
  unfold readPath at h
  split at h
  · cases h
  · exact ⟨_, readLines_ok h⟩

theorem Loaded.numbered {log : Log} (h : log.Loaded) :
    ∃ texts, log.lines = number log.options texts := by
  induction h with
  | ofText text options => exact ⟨_, rfl⟩
  | @ofBytes bytes failure options log h =>
      unfold Log.ofBytes at h
      cases hlines : readLines options bytes failure with
      | error cause =>
          rw [hlines] at h
          cases h
      | ok lines =>
          rw [hlines] at h
          cases h
          exact ⟨_, readLines_ok hlines⟩
  | @openPath files path options log h =>
      unfold Log.openPath at h
      cases hlines : readPath files path options with
      | error cause =>
          rw [hlines] at h
          cases h
      | ok lines =>
          rw [hlines] at h
          cases h
          exact readPath_ok hlines
  | @refreshed log files h ih =>
      unfold refresh
      split
      · exact ih
      · split
        · exact ih
        · rename_i hlines
          exact readPath_ok hlines

/-- Lines that were just loaded have no data, so they are sound. -/
theorem Loaded.unread {log : Log} (h : log.Loaded) :
    ∀ l ∈ log.lines, l.data = none := by
  obtain ⟨texts, hlines⟩ := h.numbered
  intro l hl
  obtain ⟨place, hplace⟩ := List.getElem?_of_mem hl
  rw [hlines, number_getElem?] at hplace
  obtain ⟨text, -, rfl⟩ := Option.map_eq_some_iff.mp hplace
  rfl

/-- However the lines of a log are asked, each answer is that of a parser
made for the text of the line alone, and stays so. No line changes but in
its data, and it has data just where it was read and its text can be parsed.
A write is refused and changes nothing. -/
theorem accesses_unobservable (depth : Nat) {log : Log}
    (loaded : log.Loaded) (cache : ParserCache) (accesses : List Access) :
    ∃ after : Session,
      Session.run depth accesses ⟨log.lines, cache⟩
        = (accesses.map (Session.expected depth ⟨log.lines, cache⟩), after)
      ∧ after.lines.length = log.lines.length
      ∧ (∀ (place : Nat) (l : Line), log.lines[place]? = some l →
        ∃ l', after.lines[place]? = some l'
          ∧ l'.number = l.number ∧ l'.text = l.text ∧ l'.options = l.options
          ∧ (l'.isLoaded = true
            ↔ (∃ access ∈ accesses, access.readsAt place = true)
              ∧ ∃ data, l.parsed depth cache = .ok data))
      ∧ (∀ access, (after.step depth access).1
        = Session.expected depth ⟨log.lines, cache⟩ access)
      ∧ ∀ place key value,
        after.step depth (.line place (.set key value))
          = (if place < log.lines.length then
              .line (.set (.error (.modification .line))) else .absent,
            after) := by
  have hsound : Session.Sound depth ⟨log.lines, cache⟩ := by
    intro l hl data hdata
    rw [loaded.unread l hl] at hdata
    cases hdata
  obtain ⟨hanswers, hfollows⟩ := Session.run_follows hsound accesses
  refine ⟨_, Prod.ext hanswers rfl, hfollows.length, fun place l hl => ?_,
    fun access => ?_, fun place key value => ?_⟩
  · have hunread := loaded.unread l (List.mem_of_getElem? hl)
    refine ⟨_, (hfollows.lines place).trans (congrArg _ hl), ?_⟩
    rw [← List.any_eq_true]
    cases accesses.any (·.readsAt place) with
    | true =>
        refine ⟨rfl, rfl, rfl, ?_⟩
        change (l.parsed depth cache).result?.isSome = true ↔ _
        cases l.parsed depth cache with
        | ok data => simp [Outcome.result?]
        | failed cause => simp [Outcome.result?]
        | exhausted => simp [Outcome.result?]
    | false =>
        refine ⟨rfl, rfl, rfl, ?_⟩
        change l.data.isSome = true ↔ _
        simp [hunread]
  · rw [(Session.step_follows (hfollows.sound hsound) access).1]
    exact hfollows.expected access
  · rw [Session.step_set, hfollows.length]

/-- A kind that fails on bad lines. -/
def fussy : ParserKind where
  name := "fussy"
  whitelist := []
  addins := []
  presets := []
  rules := [.run (.look fun view =>
    if view.line = "bad" then .fail (.configuration (.custom "bad line"))
    else .set (.sym "fine") (.bool true) (.done none))]

/-- A bad line fails as often as it is asked, and a fine one before it
answers from its own text. A kind that is not there is not made up on the
way. -/
theorem accesses_unobservable_fussy :
    ∃ after : Session,
      Session.run 0 [.line 1 .data, .line 0 (.attr "fine?" [.bool true]),
          .define "none", .line 1 (.get (.sym "fine")),
          .line 0 (.set (.sym "fine") .nil), .line 0 (.get (.sym "fine"))]
        ⟨(ofText "fine\nbad" ⟨.kind fussy, .empty⟩).lines, .empty⟩
      = ([.line (.data (.failed (.configuration (.custom "bad line")))),
          .line (.attr (.ok (.bool true))),
          .defined (.error (.configuration (.unknownParser "none" ["basic"]))),
          .line (.get (.failed (.configuration (.custom "bad line")))),
          .line (.set (.error (.modification .line))),
          .line (.get (.ok (some (.bool true))))], after)
      ∧ (after.lines[0]?.map Line.isLoaded) = some true
      ∧ (after.lines[1]?.map Line.isLoaded) = some false := by
  have hlog : (ofText "fine\nbad" ⟨.kind fussy, .empty⟩).lines
      = [.make "fine\n" 0 ⟨.kind fussy, .empty⟩,
        .make "bad" 1 ⟨.kind fussy, .empty⟩] := by
    have htexts : textLines "fine\nbad" = ["fine\n", "bad"] := by decide
    unfold ofText
    rw [htexts]
    rfl
  obtain ⟨after, hrun, -, hlines, -⟩ := accesses_unobservable 0
    (.ofText "fine\nbad" ⟨.kind fussy, .empty⟩) .empty
    [.line 1 .data, .line 0 (.attr "fine?" [.bool true]), .define "none",
      .line 1 (.get (.sym "fine")), .line 0 (.set (.sym "fine") .nil),
      .line 0 (.get (.sym "fine"))]
  rw [hlog] at hrun hlines ⊢
  have hnone : ParserCache.entryName "none" = "none" := by cbv
  have hdefine : ParserCache.empty.kindOf "none"
      = .error (.configuration (.unknownParser "none" ["basic"])) := by
    rw [ParserCache.kindOf_eq, hnone]
    rfl
  refine ⟨after, hrun.trans ?_, ?_⟩
  · simp only [List.map_cons, List.map_nil, Session.expected, hdefine]
    rfl
  · obtain ⟨fine, hfine, -, -, -, hloaded⟩ := hlines 0 _ rfl
    obtain ⟨bad, hbad, -, -, -, hunloaded⟩ := hlines 1 _ rfl
    rw [hfine, hbad]
    constructor
    · have hread : fine.isLoaded = true :=
        hloaded.mpr ⟨⟨_, .tail _ (.head _), rfl⟩, _, rfl⟩
      exact congrArg some hread
    · have hfails : bad.isLoaded ≠ true := by
        intro h
        obtain ⟨-, data, hdata⟩ := hunloaded.mp h
        cases hdata
      exact congrArg some (Bool.eq_false_iff.mpr hfails)

end Log

end Logline
