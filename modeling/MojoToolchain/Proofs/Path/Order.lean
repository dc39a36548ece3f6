import Mathlib.Data.List.Lex
import MojoToolchain.Path.Basic

/-!
# The order of paths

A component is a list of numbers: which kind it is of, and the characters of a name.  Paths come in
the order of the lists of their components, so any two of them can be compared and what is sorted
ascends from each path to all that follow it.
-/

namespace MojoToolchain.Path

/-- The numbers that a component is ordered by. -/
def Component.key : Component → List Nat
  | root => [0]
  | here => [1]
  | up => [2]
  | name chars => 3 :: chars.map Char.toNat

/-- The numbers that a path is ordered by, those of each component in turn. -/
def sortKey (p : Path) : List (List Nat) := p.components.map Component.key

theorem map_toNat_lt_iff (x y : List Char) :
  x.map Char.toNat < y.map Char.toNat ↔ x < y
  := by
  induction x generalizing y with
  | nil => cases y <;> simp
  | cons a x ih =>
    cases y with
    | nil => simp
    | cons b y =>
      simp only [List.map_cons, List.cons_lt_cons_iff, ih]
      exact or_congr Iff.rfl (and_congr_left fun _ => Char.toNat_inj)

theorem Component.before_iff (a b : Component) :
  a.before b = true ↔ a.key < b.key
  := by
  cases a with
  | name x =>
    cases b with
    | name y =>
      simp only [before, key, decide_eq_true_eq, List.cons_lt_cons_iff, Nat.lt_irrefl, true_and,
        false_or, map_toNat_lt_iff]
    | _ => simp [before, key, rank, List.cons_lt_cons_iff]
  | _ => cases b <;> simp [before, key, rank, List.cons_lt_cons_iff]

theorem Component.key_inj {a b : Component} :
  a.key = b.key ↔ a = b
  := by
  cases a with
  | name x =>
    cases b with
    | name y =>
      simp only [key, List.cons.injEq, true_and, name.injEq]
      exact List.map_inj_right fun _ _ => Char.toNat_inj.mp
    | _ => simp [key]
  | _ => cases b <;> simp [key]

theorem cons_le_iff (a b : List Nat) (as bs : List (List Nat)) :
  a :: as ≤ b :: bs ↔ a < b ∨ a = b ∧ as ≤ bs
  := by
  rw [← not_lt, ← not_lt (a := bs), List.cons_lt_cons_iff]
  rcases lt_trichotomy a b with hab | rfl | hba
  · simp [hab, hab.not_gt, hab.ne']
  · simp
  · simp [hba, hba.not_gt, hba.ne']

/-- A path comes before another when its list of numbers does, or when both have the same one. -/
theorem le_iff (p q : Path) :
  p.le q = true ↔ p.sortKey ≤ q.sortKey
  := by
  suffices hlists : ∀ as bs : List Component,
      le.lists as bs = true ↔ as.map Component.key ≤ bs.map Component.key from hlists _ _
  intro as
  induction as with
  | nil =>
    intro bs
    simp [le.lists, ← not_lt]
  | cons a as ih =>
    intro bs
    cases bs with
    | nil => simp [le.lists, ← not_lt]
    | cons b bs =>
      simp only [le.lists, Bool.or_eq_true, Bool.and_eq_true, beq_iff_eq, List.map_cons,
        cons_le_iff, Component.before_iff, Component.key_inj, ih]

/-- What is sorted ascends. -/
theorem pairwise_mergeSort_le (entries : List Path) :
  (entries.mergeSort le).Pairwise fun p q => p.sortKey ≤ q.sortKey
  := by
  have htrans (p q r : Path) (hpq : p.le q = true) (hqr : q.le r = true) : p.le r = true := by
    rw [le_iff] at hpq hqr ⊢
    exact hpq.trans hqr
  have htotal (p q : Path) : (p.le q || q.le p) = true := by
    rw [Bool.or_eq_true, le_iff, le_iff]
    exact le_total p.sortKey q.sortKey
  have hsorted : (entries.mergeSort le).Pairwise fun p q => p.le q = true :=
    List.pairwise_mergeSort htrans htotal entries
  exact hsorted.imp fun {p q} hle => (le_iff p q).mp hle

end MojoToolchain.Path
