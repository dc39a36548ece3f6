import MojoToolchain.Proofs.Json.Grammar

/-!
# Dialects

A value without trailing commas is permitted by each dialect, and RFC 8259 permits no other ones.
A text of a dialect is one of each more permissive dialect too (`Written.mono`).
-/

namespace MojoToolchain.Json.Grammar

/-! ### Values without trailing commas -/

mutual

theorem Tree.permitted_bare (d : Dialect) (v : Tree) :
  v.bare.permitted d
  := by
  cases v with
  | word w => rfl
  | literal l => rfl
  | emptyList comma => rfl
  | list items => exact items.permitted_bare d
  | emptyObject comma => rfl
  | object members => exact members.permitted_bare d

theorem Items.permitted_bare (d : Dialect) (items : Items) :
  items.bare.permitted d
  := by
  cases items with
  | last item comma => simp [Items.bare, Items.permitted, item.permitted_bare d]
  | more item rest =>
    simp [Items.bare, Items.permitted, item.permitted_bare d, rest.permitted_bare d]

theorem Members.permitted_bare (d : Dialect) (members : Members) :
  members.bare.permitted d
  := by
  cases members with
  | last key value comma => simp [Members.bare, Members.permitted, value.permitted_bare d]
  | more key value rest =>
    simp [Members.bare, Members.permitted, value.permitted_bare d, rest.permitted_bare d]

end

mutual

/-- A value of RFC 8259 is written without trailing commas. -/
theorem Tree.bare_of_permitted (v : Tree) (h : v.permitted .json) :
  v.bare = v
  := by
  cases v with
  | word w => rfl
  | literal l => rfl
  | emptyList comma =>
    cases comma with
    | true => contradiction
    | false => rfl
  | list items => rw [Tree.bare, items.bare_of_permitted h]
  | emptyObject comma =>
    cases comma with
    | true => contradiction
    | false => rfl
  | object members => rw [Tree.bare, members.bare_of_permitted h]

theorem Items.bare_of_permitted (items : Items) (h : items.permitted .json) :
  items.bare = items
  := by
  cases items with
  | last item comma =>
    simp only [Items.permitted, Dialect.json, Bool.or_false, Bool.and_eq_true,
      Bool.not_eq_true'] at h
    rw [Items.bare, item.bare_of_permitted h.1, h.2]
  | more item rest =>
    rw [Items.permitted, Bool.and_eq_true] at h
    rw [Items.bare, item.bare_of_permitted h.1, rest.bare_of_permitted h.2]

theorem Members.bare_of_permitted (members : Members) (h : members.permitted .json) :
  members.bare = members
  := by
  cases members with
  | last key value comma =>
    simp only [Members.permitted, Dialect.json, Bool.or_false, Bool.and_eq_true,
      Bool.not_eq_true'] at h
    rw [Members.bare, value.bare_of_permitted h.1, h.2]
  | more key value rest =>
    rw [Members.permitted, Bool.and_eq_true] at h
    rw [Members.bare, value.bare_of_permitted h.1, rest.bare_of_permitted h.2]

end

/-! ### More permissive dialects -/

namespace Dialect

/-- A dialect permits all that another one permits. -/
structure Within (d e : Dialect) : Prop where
  comments : d.comments → e.comments
  interruptions : d.interruptions → e.interruptions
  openComment : d.openComment → e.openComment
  trailingCommas : d.trailingCommas → e.trailingCommas
  loneCommas : d.loneCommas → e.loneCommas

instance : LE Dialect := ⟨Within⟩

theorem json_le_commented :
  json ≤ commented
  := by
  constructor <;> decide

theorem commented_le_lenient :
  commented ≤ lenient
  := by
  constructor <;> decide

end Dialect

mutual

/-- Commas may stand anywhere before the end of a container if both kinds are permitted. -/
theorem Tree.permitted_of_commas {d : Dialect} (v : Tree) (htrailing : d.trailingCommas)
    (hlone : d.loneCommas) :
  v.permitted d
  := by
  cases v with
  | word w => rfl
  | literal l => rfl
  | emptyList comma => simp [Tree.permitted, hlone]
  | list items => exact items.permitted_of_commas htrailing hlone
  | emptyObject comma => simp [Tree.permitted, hlone]
  | object members => exact members.permitted_of_commas htrailing hlone

theorem Items.permitted_of_commas {d : Dialect} (items : Items) (htrailing : d.trailingCommas)
    (hlone : d.loneCommas) :
  items.permitted d
  := by
  cases items with
  | last item comma =>
    simp [Items.permitted, item.permitted_of_commas htrailing hlone, htrailing]
  | more item rest =>
    simp [Items.permitted, item.permitted_of_commas htrailing hlone,
      rest.permitted_of_commas htrailing hlone]

theorem Members.permitted_of_commas {d : Dialect} (members : Members)
    (htrailing : d.trailingCommas) (hlone : d.loneCommas) :
  members.permitted d
  := by
  cases members with
  | last key value comma =>
    simp [Members.permitted, value.permitted_of_commas htrailing hlone, htrailing]
  | more key value rest =>
    simp [Members.permitted, value.permitted_of_commas htrailing hlone,
      rest.permitted_of_commas htrailing hlone]

end

theorem permitted_comma_mono {a b comma : Bool} (hab : a → b) (h : !comma || a) :
  !comma || b
  := by
  cases comma with
  | false => rfl
  | true => exact hab h

mutual

theorem Tree.permitted_mono {d e : Dialect} (hde : d ≤ e) (v : Tree) (h : v.permitted d) :
  v.permitted e
  := by
  cases v with
  | word w => rfl
  | literal l => rfl
  | emptyList comma => exact permitted_comma_mono hde.loneCommas h
  | list items => exact items.permitted_mono hde h
  | emptyObject comma => exact permitted_comma_mono hde.loneCommas h
  | object members => exact members.permitted_mono hde h

theorem Items.permitted_mono {d e : Dialect} (hde : d ≤ e) (items : Items)
    (h : items.permitted d) :
  items.permitted e
  := by
  cases items with
  | last item comma =>
    rw [Items.permitted, Bool.and_eq_true] at h ⊢
    exact ⟨item.permitted_mono hde h.1, permitted_comma_mono hde.trailingCommas h.2⟩
  | more item rest =>
    rw [Items.permitted, Bool.and_eq_true] at h ⊢
    exact ⟨item.permitted_mono hde h.1, rest.permitted_mono hde h.2⟩

theorem Members.permitted_mono {d e : Dialect} (hde : d ≤ e) (members : Members)
    (h : members.permitted d) :
  members.permitted e
  := by
  cases members with
  | last key value comma =>
    rw [Members.permitted, Bool.and_eq_true] at h ⊢
    exact ⟨value.permitted_mono hde h.1, permitted_comma_mono hde.trailingCommas h.2⟩
  | more key value rest =>
    rw [Members.permitted, Bool.and_eq_true] at h ⊢
    exact ⟨value.permitted_mono hde h.1, rest.permitted_mono hde h.2⟩

end

theorem Spelled.mono {d e : Dialect} (hde : d ≤ e) {ks : List Token} {s : List Char}
    (h : Spelled d ks s) :
  Spelled e ks s
  := by
  induction h with
  | nil => exact .nil
  | space hc _ ih => exact .space hc ih
  | line hd ht hs _ ih => exact .line (hde.comments hd) ht hs ih
  | block hd ht _ ih => exact .block (hde.comments hd) ht ih
  | openBlock hd ht => exact .openBlock (hde.openComment hd) ht
  | token k _ ih => exact .token k ih
  | interrupted hd ht _ ih => exact .interrupted (hde.interruptions hd) ht ih

theorem Written.mono {d e : Dialect} (hde : d ≤ e) {tree : Tree} {s : List Char}
    (h : Written d tree s) :
  Written e tree s
  where
  permitted := tree.permitted_mono hde h.permitted
  spelled := h.spelled.mono hde

end MojoToolchain.Json.Grammar
