/-
Attribute calls on tables, records and finished data.

What a call asks for is settled by its name and the number of its arguments
(`Attribute.Call`). Without an argument it reads, whatever the name ends in.
With arguments a name that has a question mark at its end tests; another name
writes its one argument, and more than one are too many.

Tables, records and finished data each answer calls on their own, and they
differ in nothing but what becomes of a write. A record answers as its table
does, and keeps what that comes to unless it is stopped (`Record.attr_eq`). In
finished data nothing can be written, so a write is refused there, while it
has its answer on a stopped record; every other call is answered as by the
table, which it leaves as it is (`Data.attr_of_not_writes`).
-/
import Logline.Proofs.Attributes

namespace Logline

namespace Attribute

variable {name base : String} {args : List Value}

/-- A name with a question mark at its end. -/
def Marked (name : String) : Prop := ∃ base, name = base ++ "?"

/-- A call that writes: one argument, and no question mark. -/
def Writes (name : String) (args : List Value) : Prop :=
  ¬ Marked name ∧ ∃ value, args = [value]

theorem testedName?_eq_some_iff :
    testedName? name = some base ↔ name = base ++ "?" := by
  constructor
  · intro h
    unfold testedName? at h
    split at h
    · rename_i rest hlist
      cases h
      rw [← String.toList_inj, ← List.reverse_inj, hlist]
      simp
    · cases h
  · rintro rfl
    exact testedName?_mark base

theorem testedName?_eq_none_iff :
    testedName? name = none ↔ ¬ Marked name := by
  unfold Marked
  rw [Option.eq_none_iff_forall_ne_some, not_exists]
  exact forall_congr' fun base => not_congr testedName?_eq_some_iff

instance (name : String) : Decidable (Marked name) :=
  decidable_of_iff ((testedName? name).isSome = true) <| by
    rw [← Option.ne_none_iff_isSome, ne_eq, testedName?_eq_none_iff, not_not]

/-- A call with one argument and no question mark writes. -/
theorem ofCall_write (unmarked : ¬ Marked name) (value : Value) :
    ofCall name [value] = .ok (.write (.symbol name) value) := by
  unfold ofCall
  rw [testedName?_eq_none_iff.mpr unmarked]

/-- What a call asks for, by its name and the number of its arguments. -/
inductive Call (name : String) : List Value → Except Error Attribute → Prop
  | read : Call name [] (.ok (.read (.symbol name)))
  | test {base : String} {args : List Value} (marked : name = base ++ "?")
      (some : args ≠ []) : Call name args (.ok (.test (.str base) args))
  | write (unmarked : ¬ Marked name) (value : Value) :
      Call name [value] (.ok (.write (.symbol name) value))
  | surplus {args : List Value} (unmarked : ¬ Marked name)
      (surplus : 1 < args.length) :
      Call name args (.error (.arity name args.length))

theorem call (name : String) (args : List Value) :
    Call name args (ofCall name args) := by
  cases htested : testedName? name with
  | some base =>
      have hmarked := testedName?_eq_some_iff.mp htested
      cases args with
      | nil => exact ofCall_nil name ▸ .read
      | cons first rest =>
          have hsome : first :: rest ≠ [] := List.cons_ne_nil first rest
          rw [hmarked, ofCall_mark base hsome]
          exact .test rfl hsome
  | none =>
      have hunmarked := testedName?_eq_none_iff.mp htested
      unfold ofCall
      rw [htested]
      match args with
      | [] => exact .read
      | [value] => exact .write hunmarked value
      | first :: second :: rest => exact .surplus hunmarked (by simp)

end Attribute

open Attribute

variable {name : String} {args : List Value}

-- ============================================================= writes

/-- In a table a write sets the symbol and gives the value. -/
theorem Table.attr_write (t : Table) (unmarked : ¬ Marked name)
    (value : Value) :
    Table.attr t name [value]
      = (.ok value, Table.set t (.symbol name) value) := by
  unfold Table.attr
  rw [ofCall_write unmarked]

/-- Finished data refuse it. -/
theorem Data.attr_write (d : Data) (unmarked : ¬ Marked name)
    (value : Value) :
    d.attr name [value]
      = .error (.modification (.record (.symbol name))) := by
  unfold Data.attr
  rw [ofCall_write unmarked]

-- ============================================================= answers

/-- The only error of a table is that there are too many arguments. -/
theorem Table.attr_eq_error_iff {t : Table} {cause : Error} :
    (Table.attr t name args).1 = .error cause
      ↔ cause = .arity name args.length ∧ ¬ Marked name
        ∧ 1 < args.length := by
  have hcall := Attribute.call name args
  unfold Table.attr
  generalize ofCall name args = asked at hcall
  cases hcall with
  | read => exact iff_of_false nofun fun h => by simpa using h.2.2
  | test marked some => exact iff_of_false nofun fun h => h.2.1 ⟨_, marked⟩
  | write unmarked value =>
      exact iff_of_false nofun fun h => by simpa using h.2.2
  | surplus unmarked surplus =>
      constructor
      · rintro ⟨⟩
        exact ⟨rfl, unmarked, surplus⟩
      · rintro ⟨rfl, -⟩
        rfl

/-- A call that does not write leaves the table as it is, and finished data
answer it as the table does. -/
theorem Data.attr_of_not_writes (d : Data) (h : ¬ Writes name args) :
    d.attr name args = (Table.attr d.table name args).1
      ∧ (Table.attr d.table name args).2 = d.table := by
  have hcall := Attribute.call name args
  unfold Data.attr Table.attr
  generalize ofCall name args = asked at hcall
  cases hcall with
  | read => exact ⟨rfl, rfl⟩
  | test marked some => exact ⟨rfl, rfl⟩
  | write unmarked value => exact absurd ⟨unmarked, value, rfl⟩ h
  | surplus unmarked surplus => exact ⟨rfl, rfl⟩

/-- A modification is what is wrong with writes, and with nothing else. -/
theorem Data.attr_refused_iff (d : Data) :
    (∃ target, d.attr name args = .error (.modification target))
      ↔ Writes name args := by
  constructor
  · rintro ⟨target, hrefused⟩
    by_contra hwrites
    rw [(d.attr_of_not_writes hwrites).1, Table.attr_eq_error_iff] at hrefused
    cases hrefused.1
  · rintro ⟨unmarked, value, rfl⟩
    exact ⟨_, d.attr_write unmarked value⟩

/-- A record answers as its table does, and keeps what that comes to unless
it is stopped. -/
theorem Record.attr_eq (r : Record) (name : String) (args : List Value) :
    r.attr name args
      = ((Table.attr r.data name args).1,
          if r.stopped then r
          else { r with data := (Table.attr r.data name args).2 }) := by
  unfold Record.attr Table.attr Record.set
  cases ofCall name args with
  | error cause => simp
  | ok asked =>
      cases asked with
      | read key => simp
      | test key candidates => simp
      | write key value => rfl

-- ========================================================= agreement

/-- A table, a record with its data that is under way and one that is stopped
answer every call alike, and only the stopped record does not keep what is
written. Finished data answer as they do, except that they refuse exactly the
calls that write. The only other error is that of too many arguments, and a
name with a question mark never writes where there is something to test. -/
theorem attr_calls_agree (t : Table) (violation : Option String)
    (name : String) (args : List Value) :
    Record.attr ⟨t, false, violation⟩ name args
      = ((Table.attr t name args).1,
          ⟨(Table.attr t name args).2, false, violation⟩)
    ∧ Record.attr ⟨t, true, violation⟩ name args
      = ((Table.attr t name args).1, ⟨t, true, violation⟩)
    ∧ (∀ cause, (Table.attr t name args).1 = .error cause
      ↔ cause = .arity name args.length ∧ ¬ Marked name ∧ 1 < args.length)
    ∧ (∀ value, ¬ Marked name → args = [value] →
      Table.attr t name args = (.ok value, Table.set t (.symbol name) value))
    ∧ (¬ Writes name args →
      Data.attr ⟨t⟩ name args = (Table.attr t name args).1
        ∧ (Table.attr t name args).2 = t)
    ∧ ((∃ target, Data.attr ⟨t⟩ name args = .error (.modification target))
      ↔ Writes name args)
    ∧ (Marked name → args ≠ [] →
      ¬ Writes name args
        ∧ (Table.attr t name args).2 = t
        ∧ ∀ stopped, (Record.attr ⟨t, stopped, violation⟩ name args).2
          = ⟨t, stopped, violation⟩) := by
  refine ⟨Record.attr_eq _ name args, Record.attr_eq _ name args,
    fun _ => Table.attr_eq_error_iff, ?_, Data.attr_of_not_writes ⟨t⟩,
    Data.attr_refused_iff ⟨t⟩, fun hmarked _ => ?_⟩
  · rintro value unmarked rfl
    exact t.attr_write unmarked value
  · have hwrites : ¬ Writes name args := fun h => h.1 hmarked
    have hleft := (Data.attr_of_not_writes ⟨t⟩ hwrites).2
    refine ⟨hwrites, hleft, fun stopped => ?_⟩
    rw [Record.attr_eq]
    simp only [hleft, ite_self]

/-- A table with a name and with one that ends in a question mark. -/
def Table.questioned : Table :=
  .ofList [(.sym "a", .int 1), (.sym "a?", .int 2)]

/-- Without an argument the question mark belongs to the name, which is read;
with arguments it tests, where another name has too many of them. A write is
kept by the record under way, lost on the stopped one and refused by data. -/
theorem attr_calls_agree_questioned :
    Data.attr ⟨.questioned⟩ "a?" [] = .ok (.int 2)
    ∧ Record.attr ⟨.questioned, true, none⟩ "a?" [.int 0, .int 1]
      = (.ok (.bool true), ⟨.questioned, true, none⟩)
    ∧ (Table.attr .questioned "a" [.int 0, .int 1]).1
      = .error (.arity "a" 2)
    ∧ Record.attr ⟨.questioned, false, none⟩ "a" [.int 3]
      = (.ok (.int 3), ⟨.set .questioned (.sym "a") (.int 3), false, none⟩)
    ∧ Record.attr ⟨.questioned, true, none⟩ "a" [.int 3]
      = (.ok (.int 3), ⟨.questioned, true, none⟩)
    ∧ ∃ target, Data.attr ⟨.questioned⟩ "a" [.int 3]
      = .error (.modification target) := by
  have hunmarked : ¬ Marked "a" := by decide
  have hread : ¬ Writes "a?" [] := fun h => nomatch h.2
  obtain ⟨-, -, -, -, hfinished, -, -⟩ :=
    attr_calls_agree .questioned none "a?" []
  obtain ⟨-, htest, -⟩ :=
    attr_calls_agree .questioned none "a?" [.int 0, .int 1]
  obtain ⟨-, -, hsurplus, -⟩ :=
    attr_calls_agree .questioned none "a" [.int 0, .int 1]
  obtain ⟨hrunning, hstopped, -, hwrite, -, hrefused, -⟩ :=
    attr_calls_agree .questioned none "a" [.int 3]
  rw [hwrite _ hunmarked rfl] at hrunning hstopped
  exact ⟨(hfinished hread).1.trans (by rfl), htest.trans (by rfl),
    (hsurplus _).mpr ⟨rfl, hunmarked, by decide⟩, hrunning, hstopped,
    hrefused.mpr ⟨hunmarked, _, rfl⟩⟩

end Logline
