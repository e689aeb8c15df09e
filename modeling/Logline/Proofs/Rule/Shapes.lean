/-
The rule that a declaration amounts to.

A declaration gives a match, data beside it, and a block or none. Its match is
a pattern, or a mapping: an entry that pairs a pattern with its subject, and
then pairs. Which declarations amount to a rule, and to which, is told here
without the way in which they are read (`Rule.Declares`), and so is what is
wrong with each of the others (`Rule.Refused`). Data and match can each bring
pairs, so they are not both let; whatever the match is, a block takes over
before an operation does.

A mapping is read entry by entry, up to the first that is no pair
(`MappingEntry.pairs_late`). So every place at which a second pattern can
stand is found, and the first one is named.
-/
import Logline.Proofs.Statement

namespace Logline

-- ========================================================= mappings

namespace MappingEntry

/-- An entry that pairs a pattern with its subject. -/
def IsSubject (entry : MappingEntry) : Prop :=
  ∃ pattern subject, entry = .subject pattern subject

/-- Pairs as entries of a mapping. -/
def ofPairs (pairs : Pairs) : List MappingEntry :=
  pairs.map fun p => .pair p.1 p.2

variable {entries : List MappingEntry}

theorem not_isSubject_of_mem_ofPairs {pairs : Pairs} {entry : MappingEntry}
    (h : entry ∈ ofPairs pairs) : ¬ entry.IsSubject := by
  obtain ⟨p, -, rfl⟩ := List.mem_map.mp h
  rintro ⟨pattern, subject, ⟨⟩⟩

/-- Entries are pairs, or there is a first among them that is not. -/
theorem ofPairs_or_first (entries : List MappingEntry) :
    (∃ pairs, entries = ofPairs pairs)
    ∨ ∃ pairs pattern subject rest,
      entries = ofPairs pairs ++ .subject pattern subject :: rest := by
  induction entries with
  | nil => exact .inl ⟨[], rfl⟩
  | cons entry rest ih =>
      cases entry with
      | subject pattern subject =>
          exact .inr ⟨[], pattern, subject, rest, rfl⟩
      | pair key value =>
          obtain ⟨pairs, rfl⟩ | ⟨pairs, pattern, subject, after, rfl⟩ := ih
          · exact .inl ⟨(key, value) :: pairs, rfl⟩
          · exact .inr ⟨(key, value) :: pairs, pattern, subject, after, rfl⟩

/-- The first entry that is no pair is where reading ends. -/
theorem pairs_late (given : Pairs) (pattern : Pattern) (subject : Subject)
    (rest : List MappingEntry) :
    pairs (ofPairs given ++ .subject pattern subject :: rest)
      = .error (.configuration (.latePattern pattern.source)) := by
  induction given with
  | nil => rfl
  | cons p before ih =>
      show (pairs (ofPairs before ++ _)).map _ = _
      rw [ih]
      rfl

end MappingEntry

open MappingEntry (ofPairs)

-- ====================================================== declarations

/-- The pairs of a pair list; nothing else gives pairs beside the match. -/
def DataArg.listed : DataArg → Pairs
  | .pairs given => given
  | _ => []

/-- Data that is no pair list. -/
def DataArg.Unlisted (data : DataArg) : Prop := ∀ pairs, data ≠ .pairs pairs

/-- The block if there is one, else the operation if there is one. -/
def Delegate.declared (data : DataArg) (block : Option (Table → Code)) :
    Option Delegate :=
  match block, data with
  | some code, _ => some (.block code)
  | none, .operation name => some (.operation name)
  | none, _ => none

namespace Rule

/-- The pattern, the subject and the pairs that a declaration gives. -/
inductive Declares : MatchArg → DataArg → Pattern → Subject → Pairs → Prop
  | pattern (p : Pattern) (data : DataArg) :
      Declares (.pattern p) data p .line data.listed
  | mapping (p : Pattern) (s : Subject) (pairs : Pairs) {data : DataArg}
      (unlisted : data.Unlisted) :
      Declares (.mapping (.subject p s :: ofPairs pairs)) data p s pairs

/-- What is wrong with a declaration. -/
inductive Refused : MatchArg → DataArg → Misconfiguration → Prop
  | listed (entries : List MappingEntry) (pairs : Pairs) :
      Refused (.mapping entries) (.pairs pairs) .mappingWithPairs
  | empty {data : DataArg} (unlisted : data.Unlisted) :
      Refused (.mapping []) data .mappingWithoutSubject
  | unled (key : Key) (value : Pending) (rest : List MappingEntry)
      {data : DataArg} (unlisted : data.Unlisted) :
      Refused (.mapping (.pair key value :: rest)) data .mappingWithoutSubject
  | late (p : Pattern) (s : Subject) (pairs : Pairs) (second : Pattern)
      (other : Subject) (rest : List MappingEntry) {data : DataArg}
      (unlisted : data.Unlisted) :
      Refused (.mapping (.subject p s :: (ofPairs pairs
        ++ .subject second other :: rest))) data (.latePattern second.source)

/-- A mapping beside a pair list, or one that is empty, does not start with a
pattern and its subject, or has these again. -/
def Malformed (arg : MatchArg) (data : DataArg) : Prop :=
  ∃ entries, arg = .mapping entries
    ∧ ((∃ pairs, data = .pairs pairs)
      ∨ entries = []
      ∨ (∃ first rest, entries = first :: rest ∧ ¬ first.IsSubject)
      ∨ ∃ first rest, entries = first :: rest ∧ ∃ e ∈ rest, e.IsSubject)

variable {arg : MatchArg} {data : DataArg} {block : Option (Table → Code)}
  {p : Pattern} {s : Subject} {pairs : Pairs} {m : Misconfiguration}

/-- A declaration gives a rule or is refused. -/
theorem declares_or_refused (arg : MatchArg) (data : DataArg) :
    (∃ p s pairs, Declares arg data p s pairs) ∨ ∃ m, Refused arg data m := by
  cases arg with
  | pattern p => exact .inl ⟨p, _, _, .pattern p data⟩
  | mapping entries =>
      by_cases hlisted : ∃ pairs, data = .pairs pairs
      · obtain ⟨pairs, rfl⟩ := hlisted
        exact .inr ⟨_, .listed entries pairs⟩
      · have hunlisted : data.Unlisted := fun pairs h => hlisted ⟨pairs, h⟩
        match entries with
        | [] => exact .inr ⟨_, .empty hunlisted⟩
        | .pair key value :: rest =>
            exact .inr ⟨_, .unled key value rest hunlisted⟩
        | .subject p s :: rest =>
            obtain ⟨pairs, rfl⟩ | ⟨pairs, second, other, after, rfl⟩ :=
              MappingEntry.ofPairs_or_first rest
            · exact .inl ⟨p, s, pairs, .mapping p s pairs hunlisted⟩
            · exact .inr ⟨_, .late p s pairs second other after hunlisted⟩

/-- Beside a mapping only a pair list makes a difference to how it is
split. -/
theorem normalize_mapping (hunlisted : data.Unlisted)
    (entries : List MappingEntry) :
    normalize (.mapping entries) data block
      = (MatchArg.mapping entries).split.map fun (p, s, pairs) =>
          ⟨p, s, pairs, Delegate.declared data block⟩ := by
  cases data with
  | nothing => cases block <;> rfl
  | pairs pairs => exact absurd rfl (hunlisted pairs)
  | operation name => cases block <;> rfl

theorem Declares.normalize (h : Declares arg data p s pairs) :
    normalize arg data block
      = .ok ⟨p, s, pairs, Delegate.declared data block⟩ := by
  cases h with
  | pattern p data => cases data <;> cases block <;> rfl
  | mapping p s pairs hunlisted =>
      rw [normalize_mapping hunlisted, MatchArg.split, ofPairs,
        Declaration.pairs_map]
      rfl

theorem Refused.normalize (h : Refused arg data m) :
    normalize arg data block = .error (.configuration m) := by
  cases h with
  | listed entries pairs => rfl
  | empty hunlisted =>
      rw [normalize_mapping hunlisted]
      rfl
  | unled key value rest hunlisted =>
      rw [normalize_mapping hunlisted]
      rfl
  | late p s pairs second other rest hunlisted =>
      rw [normalize_mapping hunlisted, MatchArg.split,
        MappingEntry.pairs_late]
      rfl

theorem refused_iff_malformed :
    (∃ m, Refused arg data m) ↔ Malformed arg data := by
  constructor
  · rintro ⟨m, h⟩
    cases h with
    | listed entries pairs => exact ⟨_, rfl, .inl ⟨pairs, rfl⟩⟩
    | empty hunlisted => exact ⟨_, rfl, .inr (.inl rfl)⟩
    | unled key value rest hunlisted =>
        refine ⟨_, rfl, .inr (.inr (.inl ⟨_, _, rfl, ?_⟩))⟩
        rintro ⟨pattern, subject, ⟨⟩⟩
    | late p s pairs second other rest hunlisted =>
        refine ⟨_, rfl, .inr (.inr (.inr ⟨_, _, rfl, .subject second other,
          ?_, second, other, rfl⟩))⟩
        exact List.mem_append_right _ (.head _)
  · rintro ⟨entries, rfl, hwrong⟩
    obtain ⟨p, s, pairs, hdeclares⟩ | hrefused :=
      declares_or_refused (.mapping entries) data
    · -- a mapping that gives a rule is wrong in none of these ways
      cases hdeclares with
      | mapping p s pairs hunlisted =>
          obtain ⟨pairs, rfl⟩ | ⟨⟨⟩⟩ | ⟨first, rest, ⟨⟩, hfirst⟩
            | ⟨first, rest, ⟨⟩, e, he, hsubject⟩ := hwrong
          · exact absurd rfl (hunlisted pairs)
          · exact absurd ⟨p, s, rfl⟩ hfirst
          · exact absurd hsubject (MappingEntry.not_isSubject_of_mem_ofPairs he)
    · exact hrefused

/-- What is given is what the rule has. -/
theorem normalize_eq_ok_iff {rule : Rule} :
    normalize arg data block = .ok rule
      ↔ Declares arg data rule.pattern rule.subject rule.pairs
        ∧ rule.delegate = Delegate.declared data block := by
  constructor
  · intro hrule
    obtain ⟨p, s, pairs, h⟩ | ⟨m, h⟩ := declares_or_refused arg data
    · rw [h.normalize] at hrule
      cases hrule
      exact ⟨h, rfl⟩
    · rw [h.normalize] at hrule
      cases hrule
  · rintro ⟨h, hdelegate⟩
    rw [h.normalize, ← hdelegate]

/-- A declaration fails for what is wrong with it. -/
theorem normalize_eq_error_iff {cause : Error} :
    normalize arg data block = .error cause
      ↔ ∃ m, cause = .configuration m ∧ Refused arg data m := by
  constructor
  · intro hcause
    obtain ⟨p, s, pairs, h⟩ | ⟨m, h⟩ := declares_or_refused arg data
    · rw [h.normalize] at hcause
      cases hcause
    · rw [h.normalize] at hcause
      cases hcause
      exact ⟨m, rfl, h⟩
  · rintro ⟨m, rfl, h⟩
    exact h.normalize

end Rule

-- ========================================================= rule sets

/-- A pattern on the line comes to the same in both ways to declare it, also
where it cannot be read. -/
theorem Declaration.statement_onSubject_line (source : String)
    (pairs : Pairs) :
    (onSubject source .line pairs).statement
      = (on source pairs).statement := by
  cases h : Pattern.compile source with
  | ok pattern => rw [statement_onSubject h, statement_on h]
  | error cause =>
      simp only [statement, Draft.rule, DraftMatch.compile, List.mapM_cons,
        DraftEntry.compile, h]
      rfl

/-- Of a declaration only its statement enters into a rule set. -/
theorem RuleSet.declare_congr {d d' : Declaration}
    (h : d.statement = d'.statement) (before after : List Declaration) :
    declare (before ++ d :: after) = declare (before ++ d' :: after) := by
  induction before with
  | nil =>
      rw [List.nil_append, List.nil_append, declare, declare, h]
  | cons first rest ih =>
      rw [List.cons_append, List.cons_append, declare, declare, ih]

/-- A declaration fails, with an error of configuration, exactly where it is
malformed, and the error says what is wrong. Any other gives the rule with
the pattern, the subject and the pairs that it gives, in their order, and the
block or else the operation to take over. So a pattern with pairs adds one
and the same rule to a rule set, whether it is declared on the line or on a
subject that is the line. -/
theorem Rule.normalize_shapes (arg : MatchArg) (data : DataArg)
    (block : Option (Table → Code)) :
    ((∃ m, normalize arg data block = .error (.configuration m))
      ↔ Malformed arg data)
    ∧ (∀ cause, normalize arg data block = .error cause
      ↔ ∃ m, cause = .configuration m ∧ Refused arg data m)
    ∧ (¬ Malformed arg data → ∃ rule, normalize arg data block = .ok rule)
    ∧ (∀ rule, normalize arg data block = .ok rule
      ↔ Declares arg data rule.pattern rule.subject rule.pairs
        ∧ rule.delegate = Delegate.declared data block)
    ∧ ∀ (before after : List Declaration) (source : String) (pairs : Pairs),
      RuleSet.declare (before ++ .onSubject source .line pairs :: after)
        = RuleSet.declare (before ++ .on source pairs :: after)
      ∧ ∀ pattern, Pattern.compile source = .ok pattern →
        (Declaration.on source pairs).statement
          = .ok (.on ⟨pattern, .line, pairs, none⟩) := by
  refine ⟨?_, fun _ => normalize_eq_error_iff, fun hwell => ?_,
    fun _ => normalize_eq_ok_iff,
    fun before after source pairs => ⟨?_, fun pattern h => ?_⟩⟩
  · rw [← refused_iff_malformed]
    refine exists_congr fun m => normalize_eq_error_iff.trans ?_
    simp
  · obtain ⟨p, s, pairs, h⟩ | hrefused := declares_or_refused arg data
    · exact ⟨_, h.normalize⟩
    · exact absurd (refused_iff_malformed.mp hrefused) hwell
  · exact RuleSet.declare_congr
      (Declaration.statement_onSubject_line source pairs) before after
  · exact Declaration.statement_on h pairs

/-- The pattern of a single letter. -/
def Rule.letter : Pattern := ⟨"x", .chars (.single 'x')⟩

/-- A mapping that starts with it, and has one name in both forms. -/
def Rule.led : MatchArg :=
  .mapping [.subject letter (.text "x"), .pair (.sym "a") (.capture "g"),
    .pair (.str "a") (.literal .nil)]

/-- A mapping that comes back to it. -/
def Rule.returning : MatchArg :=
  .mapping [.subject letter .line, .pair (.sym "a") (.capture "g"),
    .subject letter .line]

/-- The block takes over before the operation, and the pairs stay in their
order. An empty pair list beside the mapping is one too many, and so is a
second pattern behind a pair. -/
theorem Rule.normalize_shapes_led :
    ¬ Malformed led (.operation "op")
    ∧ normalize led (.operation "op") (some fun _ => .done none)
      = .ok ⟨letter, .text "x",
          [(.sym "a", .capture "g"), (.str "a", .literal .nil)],
          some (.block fun _ => .done none)⟩
    ∧ normalize led (.operation "op") none
      = .ok ⟨letter, .text "x",
          [(.sym "a", .capture "g"), (.str "a", .literal .nil)],
          some (.operation "op")⟩
    ∧ normalize led (.pairs []) none
      = .error (.configuration .mappingWithPairs)
    ∧ normalize returning .nothing none
      = .error (.configuration (.latePattern "x"))
    ∧ Malformed returning .nothing
    ∧ (Declaration.on "x" []).statement
      = .ok (.on ⟨letter, .line, [], none⟩) := by
  have hoperation : (DataArg.operation "op").Unlisted := nofun
  have hnothing : DataArg.nothing.Unlisted := nofun
  have hgives : Declares led (.operation "op") letter (.text "x")
      [(.sym "a", .capture "g"), (.str "a", .literal .nil)] :=
    .mapping _ _ [(.sym "a", .capture "g"), (.str "a", .literal .nil)]
      hoperation
  have hlate : Refused returning .nothing (.latePattern "x") :=
    .late letter .line [(.sym "a", .capture "g")] letter .line [] hnothing
  obtain ⟨hwell, -, -, hblock, -⟩ :=
    normalize_shapes led (.operation "op") (some fun _ => .done none)
  obtain ⟨-, -, -, hcalls, -⟩ := normalize_shapes led (.operation "op") none
  obtain ⟨-, hlisted, -⟩ := normalize_shapes led (.pairs []) none
  obtain ⟨hwrong, hfails, -, -, hroutes⟩ :=
    normalize_shapes returning .nothing none
  have hgiven := (hblock ⟨letter, .text "x",
    [(.sym "a", .capture "g"), (.str "a", .literal .nil)],
    some (.block fun _ => .done none)⟩).mpr ⟨hgives, rfl⟩
  have hwellFormed : ¬ Malformed led (.operation "op") := by
    intro h
    obtain ⟨m, herror⟩ := hwell.mpr h
    cases hgiven.symm.trans herror
  have hfailed := (hfails _).mpr ⟨_, rfl, hlate⟩
  exact ⟨hwellFormed, hgiven, (hcalls _).mpr ⟨hgives, rfl⟩,
    (hlisted _).mpr ⟨_, rfl, .listed _ _⟩, hfailed, hwrong.mp ⟨_, hfailed⟩,
    (hroutes [] [] "x" []).2 letter (by rfl)⟩

end Logline
