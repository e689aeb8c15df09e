/-
Writes under keys that have nothing to do with each other.

What a write does depends on which forms of its key are there, and so does
what a read gives. A key is foreign to another where the two have no form in
common. Then a write under the one touches no form of the other, so it
changes neither what is read under it nor where a write under it goes
(`Table.find?_set_foreign`, `Table.target_set_foreign`), and two such writes
can change places (`Table.set_comm`).

They leave their entries in another order, though. What is the same in both
orders is what is held under each key: the tables agree (`Table.Agree`), and
tables that agree are the same as values.
-/
import Logline.Proofs.Table
import Logline.Proofs.Value
import Logline.Record

namespace Logline

namespace Key

/-- A key none of whose forms is a form of another. -/
def Foreign (key other : Key) : Prop :=
  ∀ probe ∈ Table.probes key, probe ∉ Table.probes other

instance (key other : Key) : Decidable (key.Foreign other) :=
  inferInstanceAs (Decidable (∀ probe ∈ Table.probes key, _))

theorem Foreign.symm {key other : Key} (h : key.Foreign other) :
    other.Foreign key :=
  fun probe hother hkey => h probe hkey hother

end Key

-- ============================================================ tables

namespace Table

variable {t u : Table} {key other probe : Key} {value w : Value}

/-- A read depends on the forms of its key alone. -/
theorem get?_congr (h : ∀ probe ∈ probes key, t.find? probe = u.find? probe) :
    get? t key = get? u key := by
  unfold get?
  generalize probes key = keys at h ⊢
  induction keys with
  | nil => rfl
  | cons probe rest ih =>
      rw [List.findSome?_cons, List.findSome?_cons, h probe (.head _),
        ih fun probe hprobe => h probe (.tail _ hprobe)]

/-- So does where a write goes. -/
theorem target_congr
    (h : ∀ probe ∈ probes key, t.find? probe = u.find? probe) :
    target t key = target u key := by
  have hcontains : ∀ probe ∈ probes key, t.contains probe = u.contains probe :=
    fun probe hprobe => congrArg Option.isSome (h probe hprobe)
  unfold target
  rw [hcontains _ (.tail _ (.head _)),
    hcontains _ (.tail _ (.tail _ (.head _)))]

/-- It touches no form of a foreign key. -/
theorem find?_set_foreign (h : key.Foreign other)
    (hprobe : probe ∈ probes other) :
    (set t key value).find? probe = t.find? probe := by
  unfold set
  rw [OrderedMap.find?_insert, if_neg]
  rintro rfl
  exact h _ (target_mem_probes t key) hprobe

theorem target_set_foreign (h : key.Foreign other) :
    target (set t key value) other = target t other :=
  target_congr fun _ hprobe => find?_set_foreign h hprobe

/-- Tables that hold the same under each key. -/
def Agree (t u : Table) : Prop := ∀ key, t.find? key = u.find? key

/-- The same write to both goes to the same entry. -/
theorem Agree.set (h : t.Agree u) (key : Key) (value : Value) :
    (Table.set t key value).Agree (Table.set u key value) := by
  intro read
  unfold Table.set
  rw [OrderedMap.find?_insert, OrderedMap.find?_insert, h read,
    target_congr fun probe _ => h probe]

/-- Writes under foreign keys can change places. -/
theorem set_comm (h : key.Foreign other) (t : Table) (value w : Value) :
    (set (set t key value) other w).Agree
      (set (set t other w) key value) := by
  have hapart : target t key ≠ target t other := by
    intro hsame
    have hmem := target_mem_probes t key
    rw [hsame] at hmem
    exact h _ hmem (target_mem_probes t other)
  -- in both orders each write goes where it would have gone alone
  have hlast : set (set t key value) other w
      = (t.insert (target t key) value).insert (target t other) w := by
    rw [set.eq_def (set t key value), target_set_foreign h]
    rfl
  have hfirst : set (set t other w) key value
      = (t.insert (target t other) w).insert (target t key) value := by
    rw [set.eq_def (set t other w), target_set_foreign h.symm]
    rfl
  intro read
  rw [hlast, hfirst]
  simp only [OrderedMap.find?_insert]
  by_cases hkey : read = target t key
  · simp [hkey, hapart]
  · simp [hkey]

end Table

-- =========================================================== records

namespace Record

/-- Records that hold the same under each key, stopped both or neither, with
the same violation. -/
structure Agree (r s : Record) : Prop where
  data : r.data.Agree s.data
  stopped : r.stopped = s.stopped
  violation : r.violation = s.violation

/-- Records with the same data, whatever the order of its entries, stopped
both or neither, with the same violation. -/
structure Same (r s : Record) : Prop where
  data : Table.same r.data s.data = true
  stopped : r.stopped = s.stopped
  violation : r.violation = s.violation

/-- The record after a list of writes. -/
def setAll (r : Record) (writes : List (Key × Value)) : Record :=
  writes.foldl (fun r w => r.set w.1 w.2) r

variable {r s t : Record} {key : Key} {first second writes : List (Key × Value)}

theorem Agree.refl (r : Record) : r.Agree r := ⟨fun _ => rfl, rfl, rfl⟩

theorem Agree.trans (h : r.Agree s) (h' : s.Agree t) : r.Agree t :=
  ⟨fun key => (h.data key).trans (h'.data key),
    h.stopped.trans h'.stopped, h.violation.trans h'.violation⟩

theorem Agree.same (h : r.Agree s) : r.Same s :=
  ⟨Table.same_of_find? h.data, h.stopped, h.violation⟩

theorem set_stopped (r : Record) (key : Key) (value : Value) :
    (r.set key value).stopped = r.stopped := by
  unfold set
  split <;> rfl

theorem Agree.set (h : r.Agree s) (key : Key) (value : Value) :
    (r.set key value).Agree (s.set key value) := by
  unfold Record.set
  rw [h.stopped]
  split
  · exact h
  · exact ⟨h.data.set key value, rfl, h.violation⟩

theorem find?_set_foreign {other probe : Key} {value : Value}
    (h : key.Foreign other) (hprobe : probe ∈ Table.probes other) :
    (r.set key value).data.find? probe = r.data.find? probe := by
  unfold set
  split
  · rfl
  · exact Table.find?_set_foreign h hprobe

theorem set_comm {other : Key} (h : key.Foreign other) (r : Record)
    (value w : Value) :
    ((r.set key value).set other w).Agree
      ((r.set other w).set key value) := by
  cases hs : r.stopped with
  | true =>
      simp only [set, hs, if_true]
      exact .refl r
  | false =>
      simp only [set, hs, Bool.false_eq_true, if_false]
      exact ⟨Table.set_comm h r.data value w, rfl, rfl⟩

-- =================================================== lists of writes

theorem setAll_stopped : (r.setAll writes).stopped = r.stopped := by
  unfold setAll
  induction writes generalizing r with
  | nil => rfl
  | cons w rest ih => exact ih.trans (r.set_stopped w.1 w.2)

theorem Agree.setAll (h : r.Agree s) (writes : List (Key × Value)) :
    (r.setAll writes).Agree (s.setAll writes) := by
  unfold Record.setAll
  induction writes generalizing r s with
  | nil => exact h
  | cons w rest ih => exact ih (h.set w.1 w.2)

/-- Writes touch no form of a key that is foreign to theirs. -/
theorem find?_setAll_foreign {probe : Key}
    (h : ∀ w ∈ writes, w.1.Foreign key) (hprobe : probe ∈ Table.probes key) :
    (r.setAll writes).data.find? probe = r.data.find? probe := by
  unfold setAll
  induction writes generalizing r with
  | nil => rfl
  | cons w rest ih =>
      have hrest : ∀ w ∈ rest, w.1.Foreign key :=
        fun w hw => h w (.tail _ hw)
      exact (ih hrest).trans (find?_set_foreign (h w (.head _)) hprobe)

/-- One write can pass a list of foreign ones. -/
theorem set_setAll (h : ∀ w ∈ writes, key.Foreign w.1) (value : Value) :
    ((r.set key value).setAll writes).Agree
      ((r.setAll writes).set key value) := by
  induction writes generalizing r with
  | nil => exact .refl _
  | cons w rest ih =>
      have hswap := set_comm (h w (.head _)) r value w.2
      exact (hswap.setAll rest).trans (ih fun w hw => h w (.tail _ hw))

/-- And so can a whole list, one write after the other. -/
theorem setAll_comm (h : ∀ v ∈ first, ∀ w ∈ second, v.1.Foreign w.1) :
    ((r.setAll first).setAll second).Agree
      ((r.setAll second).setAll first) := by
  induction first generalizing r with
  | nil => exact .refl _
  | cons v rest ih =>
      have hlater := ih (r := r.set v.1 v.2) fun v hv => h v (.tail _ hv)
      exact hlater.trans ((set_setAll (h v (.head _)) v.2).setAll rest)

end Record

end Logline
