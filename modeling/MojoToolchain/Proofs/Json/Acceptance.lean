import Mathlib.Data.List.TakeWhile
import MojoToolchain.Proofs.Json.Literals
import MojoToolchain.Proofs.Json.Spelling

/-!
# What the readers accept

A reader that succeeds has taken a value of RFC 8259 off its text, whether it keeps the value,
makes a record of it or passes over it.  So a text that is read to its end is one of RFC 8259
(`exists_written_of_readWhole`).
-/

namespace MojoToolchain.Json.Grammar

variable {s t u w r : List Char} {ls ms : List Token} {α : Type}

/-! ### Tokens that are taken off a text -/

/-- What is before `r` in `s` spells tokens, whatever tokens follow. -/
def Consumes (ls : List Token) (s r : List Char) : Prop :=
  ∀ ks, Spelled .json ks r → Spelled .json (ls ++ ks) s

namespace Consumes

theorem trans (hs : Consumes ls s t) (ht : Consumes ms t r) :
  Consumes (ls ++ ms) s r
  := by
  intro ks h
  rw [List.append_assoc]
  exact hs _ (ht ks h)

theorem token (k : Token) (r : List Char) :
  Consumes [k] (k.chars ++ r) r
  := fun _ h => .token k h

theorem of_skipSpace (hs : skipSpace s = t) (ht : Consumes ls t r) :
  Consumes ls s r
  := by
  intro ks h
  rw [← List.takeWhile_append_dropWhile (p := isSpace) (l := s)]
  apply Spelled.spaces (fun c hc => List.mem_takeWhile_imp hc)
  rw [← skipSpace, hs]
  exact ht ks h

/-- White space before a mark is passed over with it. -/
theorem mark (m : Mark) (h : skipSpace s = m.char :: r) :
  Consumes [.mark m] s r
  := of_skipSpace h (token (.mark m) r)

end Consumes

/-! ### Values that are taken off a text -/

/-- What is before `r` in `s` is a value of RFC 8259. -/
def Value (s r : List Char) : Prop :=
  ∃ tree : Tree, tree.permitted .json ∧ Consumes tree.tokens s r

/-- What is before `r` in `s` is what stands between the opening bracket of a list that has items
and its end. -/
def ListBody (s r : List Char) : Prop :=
  ∃ items : Items, items.permitted .json ∧ Consumes (items.tokens ++ [.mark .closeList]) s r

/-- What is before `r` in `s` is a key and its colon. -/
def Key (s r : List Char) : Prop := ∃ l : Literal, Consumes [.literal l, .mark .colon] s r

/-- What is before `r` in `s` is what stands between the opening brace of an object that has
members and its end. -/
def ObjectBody (s r : List Char) : Prop :=
  ∃ members : Members,
    members.permitted .json ∧ Consumes (members.tokens ++ [.mark .closeObject]) s r

theorem Value.of_skipSpace (hs : skipSpace s = t) (ht : Value t r) :
  Value s r
  := by
  obtain ⟨tree, htree, ht⟩ := ht
  exact ⟨tree, htree, ht.of_skipSpace hs⟩

theorem ObjectBody.of_skipSpace (hs : skipSpace s = t) (ht : ObjectBody t r) :
  ObjectBody s r
  := by
  obtain ⟨members, hmembers, ht⟩ := ht
  exact ⟨members, hmembers, ht.of_skipSpace hs⟩

theorem Value.word (w : Word) (r : List Char) :
  Value (w.chars ++ r) r
  := ⟨.word w, rfl, .token (.word w) r⟩

theorem Value.emptyList (hs : Consumes [.mark .openList] s t)
    (ht : Consumes [.mark .closeList] t r) :
  Value s r
  := ⟨.emptyList false, rfl, hs.trans ht⟩

theorem Value.list (hs : Consumes [.mark .openList] s t) (ht : ListBody t r) :
  Value s r
  := by
  obtain ⟨items, hitems, ht⟩ := ht
  exact ⟨.list items, hitems, hs.trans ht⟩

theorem Value.emptyObject (hs : Consumes [.mark .openObject] s t)
    (ht : Consumes [.mark .closeObject] t r) :
  Value s r
  := ⟨.emptyObject false, rfl, hs.trans ht⟩

theorem Value.object (hs : Consumes [.mark .openObject] s t) (ht : ObjectBody t r) :
  Value s r
  := by
  obtain ⟨members, hmembers, ht⟩ := ht
  exact ⟨.object members, hmembers, hs.trans ht⟩

theorem ListBody.last (hs : Value s t) (ht : Consumes [.mark .closeList] t r) :
  ListBody s r
  := by
  obtain ⟨item, hitem, hs⟩ := hs
  refine ⟨.last item false, by simp [Items.permitted, hitem], ?_⟩
  rw [Items.tokens, ending, if_neg Bool.false_ne_true, List.append_nil]
  exact hs.trans ht

theorem ListBody.more (hs : Value s t) (ht : Consumes [.mark .comma] t u) (hu : ListBody u r) :
  ListBody s r
  := by
  obtain ⟨item, hitem, hs⟩ := hs
  obtain ⟨rest, hrest, hu⟩ := hu
  refine ⟨.more item rest, by simp [Items.permitted, hitem, hrest], ?_⟩
  rw [Items.tokens, List.append_assoc]
  exact hs.trans (ht.trans hu)

theorem ObjectBody.last (hs : Key s t) (ht : Value t u) (hu : Consumes [.mark .closeObject] u r) :
  ObjectBody s r
  := by
  obtain ⟨key, hs⟩ := hs
  obtain ⟨value, hvalue, ht⟩ := ht
  refine ⟨.last key value false, by simp [Members.permitted, hvalue], ?_⟩
  rw [Members.tokens, ending, if_neg Bool.false_ne_true, List.append_nil]
  exact hs.trans (ht.trans hu)

theorem ObjectBody.more (hs : Key s t) (ht : Value t u) (hu : Consumes [.mark .comma] u w)
    (hw : ObjectBody w r) :
  ObjectBody s r
  := by
  obtain ⟨key, hs⟩ := hs
  obtain ⟨value, hvalue, ht⟩ := ht
  obtain ⟨rest, hrest, hw⟩ := hw
  refine ⟨.more key value rest, by simp [Members.permitted, hvalue, hrest], ?_⟩
  have h := hs.trans (ht.trans (hu.trans hw))
  simpa [Members.tokens] using h

/-! ### Values that are no containers -/

/-- A string literal is a value, and a key if a colon follows. -/
theorem exists_literal_of_closed (h : Takes Closed s r) :
  ∃ l : Literal, '"' :: s = (Token.literal l).chars ++ r
  := by
  obtain ⟨_, ⟨body, hbody, rfl⟩, rfl⟩ := h
  exact ⟨⟨body, hbody⟩, rfl⟩

theorem Value.of_closed (h : Takes Closed s r) :
  Value ('"' :: s) r
  := by
  obtain ⟨l, hl⟩ := exists_literal_of_closed h
  rw [hl]
  exact ⟨.literal l, rfl, .token (.literal l) r⟩

theorem Value.of_number (h : Takes Number s r) :
  Value s r
  := by
  obtain ⟨cs, hcs, rfl⟩ := h
  exact .word ⟨cs, .inr hcs⟩ r

theorem value_of_readWordAs {word : String} {value v : Json} {c : Char} {x : Rest (c :: s)}
    (h : readWordAs word value c s = .ok (v, x)) (hname : c :: word.toList ∈ names) :
  Value (c :: s) x.val
  := by
  unfold readWordAs at h
  split at h
  case h_1 => contradiction
  case h_2 rest hread =>
    cases h
    obtain rfl := eq_append_of_readWord hread
    exact .word ⟨_, .inl hname⟩ rest

theorem closed_of_readString {text : String} {x : Rest ('"' :: s)}
    (h : readString s = .ok (text, x)) :
  Takes Closed s x.val
  := by
  unfold readString at h
  split at h
  case h_1 => contradiction
  case h_2 cs rest hread =>
    cases h
    exact takes_of_readStringFrom hread

theorem value_of_readScalar {v : Json} {x : Rest s} (h : readScalar s = .ok (v, x)) :
  Value s x.val
  := by
  unfold readScalar at h
  split at h
  case h_1 => exact value_of_readWordAs h (by decide)
  case h_2 => exact value_of_readWordAs h (by decide)
  case h_3 => exact value_of_readWordAs h (by decide)
  case h_4 r =>
    split at h
    case h_1 => contradiction
    case h_2 text rest hread =>
      cases h
      exact .of_closed (closed_of_readString hread)
  case h_5 c r _ _ _ _ =>
    split at h
    case isTrue =>
      unfold readNumberAt at h
      split at h
      case h_1 => contradiction
      case h_2 value rest hread =>
        cases h
        exact .of_number (takes_of_readNumber hread)
    case isFalse => contradiction
  case h_6 => contradiction

theorem value_of_skipScalar {x : Rest s} (h : skipScalar s = .ok x) :
  Value s x.val
  := by
  unfold skipScalar at h
  split at h
  case h_1 r =>
    obtain ⟨y, hy, h⟩ := (bind_eq_ok _ _ _).mp h
    cases h
    exact .of_closed (takes_of_skipString hy)
  case h_2 c r _ =>
    split at h
    case isTrue => exact .of_number (takes_of_skipNumber h)
    case isFalse =>
      obtain ⟨⟨v, y⟩, hy, h⟩ := (bind_eq_ok _ _ _).mp h
      cases h
      exact value_of_readScalar hy
  case h_3 => contradiction

/-! ### Lists and objects -/

/-- A reader takes values of RFC 8259 off a text. -/
def ReadsValues (read : (s : List Char) → Reading α s) : Prop :=
  ∀ s a x, read s = .ok (a, x) → Value s x.val

theorem listBody_of_readItems {item : (s : List Char) → Reading α s} (hitem : ReadsValues item)
    {as : List α} {x : Rest s} (h : readItems item s = .ok (as, x)) :
  ListBody s x.val
  := by
  fun_induction readItems item s generalizing as with
  | case1 s ih =>
    obtain ⟨⟨a, y⟩, ha, h⟩ := (bind_eq_ok _ _ _).mp h
    have hvalue := hitem s a y ha
    simp only at h
    split at h
    case h_1 => contradiction
    case h_2 r hr =>
      cases h
      exact .last hvalue (.mark .closeList hr)
    case h_3 r hr =>
      split at h
      case h_1 => contradiction
      case h_2 => contradiction
      case h_3 =>
        obtain ⟨⟨bs, z⟩, hz, h⟩ := (bind_eq_ok _ _ _).mp h
        cases h
        exact .more hvalue (.mark .comma hr) (ih y r hr hz)
    case h_4 => contradiction

theorem value_of_readList {item : (s : List Char) → Reading α s} (hitem : ReadsValues item)
    {as : List α} {x : Rest ('[' :: s)} (h : readList item s = .ok (as, x)) :
  Value ('[' :: s) x.val
  := by
  unfold readList at h
  split at h
  case h_1 => contradiction
  case h_2 r hr =>
    cases h
    exact .emptyList (.token (.mark .openList) s) (.mark .closeList hr)
  case h_3 =>
    obtain ⟨⟨bs, y⟩, hy, h⟩ := (bind_eq_ok _ _ _).mp h
    cases h
    exact .list (.token (.mark .openList) s) (listBody_of_readItems hitem hy)

theorem consumes_of_readColon {x : Rest s} (h : readColon s = .ok x) :
  Consumes [.mark .colon] s x.val
  := by
  unfold readColon at h
  split at h
  case h_1 => contradiction
  case h_2 r hr =>
    cases h
    exact .mark .colon hr
  case h_3 => contradiction

theorem key_of_readKey {key : String} {x : Rest s} (h : readKey s = .ok (key, x))
    (hcolon : Consumes [.mark .colon] x.val r) :
  Key s r
  := by
  unfold readKey at h
  split at h
  case h_1 s =>
    obtain ⟨l, hl⟩ := exists_literal_of_closed (closed_of_readString h)
    rw [hl]
    exact ⟨l, Consumes.trans (.token (.literal l) x.val) hcolon⟩
  case h_2 => contradiction

/-- Where a key starts is behind white space. -/
theorem eq_of_nextKey {x : Tail s} (h : nextKey s = .ok x) :
  skipSpace s = x.val
  := by
  unfold nextKey at h
  split at h
  case h_1 => contradiction
  case h_2 =>
    cases h
    rfl
  case h_3 => contradiction
  case h_4 => contradiction

theorem objectBody_of_readMembers {value : (s : List Char) → Reading α s}
    (hvalue : ReadsValues value) {members : List (String × α)} {x : Rest s}
    (h : readMembers value s = .ok (members, x)) :
  ObjectBody s x.val
  := by
  fun_induction readMembers value s generalizing members with
  | case1 s ih =>
    obtain ⟨⟨key, y⟩, hy, h⟩ := (bind_eq_ok _ _ _).mp h
    obtain ⟨z, hz, h⟩ := (bind_eq_ok _ _ _).mp h
    obtain ⟨⟨a, w⟩, hw, h⟩ := (bind_eq_ok _ _ _).mp h
    have hkey := key_of_readKey hy (consumes_of_readColon hz)
    have ha := hvalue z.val a w hw
    simp only at h
    split at h
    case h_1 => contradiction
    case h_2 r hr =>
      cases h
      exact .last hkey ha (.mark .closeObject hr)
    case h_3 r hr =>
      obtain ⟨k, hk, h⟩ := (bind_eq_ok _ _ _).mp h
      obtain ⟨⟨rest, v⟩, hv, h⟩ := (bind_eq_ok _ _ _).mp h
      cases h
      have hrest := ih y z w r hr k hv
      exact .more hkey ha (.mark .comma hr) (.of_skipSpace (eq_of_nextKey hk) hrest)
    case h_4 => contradiction

/-- What `firstKey` tells about the text behind the opening brace of an object. -/
def FirstKey (s : List Char) : Tail s ⊕ Rest s → Prop
  | .inl key => skipSpace s = key.val
  | .inr behind => Consumes [.mark .closeObject] s behind.val

theorem firstKey_of_firstKey {x : Tail s ⊕ Rest s} (h : firstKey s = .ok x) :
  FirstKey s x
  := by
  unfold firstKey at h
  split at h
  case h_1 => contradiction
  case h_2 r hr =>
    cases h
    exact .mark .closeObject hr
  case h_3 =>
    cases h
    rfl
  case h_4 => contradiction

theorem value_of_readObject {value : (s : List Char) → Reading α s} (hvalue : ReadsValues value)
    {members : List (String × α)} {x : Rest ('\x7b' :: s)}
    (h : readObject value s = .ok (members, x)) :
  Value ('\x7b' :: s) x.val
  := by
  have hopen : Consumes [.mark .openObject] ('\x7b' :: s) s := .token (.mark .openObject) s
  unfold readObject at h
  obtain ⟨first, hfirst, h⟩ := (bind_eq_ok _ _ _).mp h
  have hkey := firstKey_of_firstKey hfirst
  cases first with
  | inr y =>
    cases h
    exact .emptyObject hopen hkey
  | inl y =>
    obtain ⟨⟨rest, z⟩, hz, h⟩ := (bind_eq_ok _ _ _).mp h
    cases h
    exact .object hopen (.of_skipSpace hkey (objectBody_of_readMembers hvalue hz))

/-- What `readValue` takes off a text is a value of RFC 8259. -/
theorem readsValues_readValue (depth : Nat) :
  ReadsValues (readValue depth)
  := by
  intro s v x h
  unfold readValue at h
  split at h
  case h_1 r hr =>
    cases depth with
    | zero => contradiction
    | succ depth =>
      obtain ⟨⟨items, y⟩, hy, h⟩ := (bind_eq_ok _ _ _).mp h
      cases h
      exact .of_skipSpace hr (value_of_readList (readsValues_readValue depth) hy)
  case h_2 r hr =>
    cases depth with
    | zero => contradiction
    | succ depth =>
      obtain ⟨⟨members, y⟩, hy, h⟩ := (bind_eq_ok _ _ _).mp h
      cases h
      exact .of_skipSpace hr (value_of_readObject (readsValues_readValue depth) hy)
  case h_3 =>
    obtain ⟨⟨a, y⟩, hy, h⟩ := (bind_eq_ok _ _ _).mp h
    cases h
    exact .of_skipSpace rfl (value_of_readScalar hy)

/-- A text that is read to its end is one of RFC 8259. -/
theorem exists_written_of_readWhole {read : (s : List Char) → Reading α s}
    (hread : ReadsValues read) {a : α} (h : readWhole read s = .ok a) :
  ∃ tree, Written .json tree s
  := by
  obtain ⟨⟨b, x⟩, hx, h⟩ := (bind_eq_ok _ _ _).mp h
  obtain ⟨tree, htree, hs⟩ := hread s b x hx
  simp only at h
  split at h
  case h_1 hspace =>
    refine ⟨tree, htree, ?_⟩
    rw [← List.append_nil tree.tokens]
    apply hs
    rw [← List.takeWhile_append_dropWhile (p := isSpace) (l := x.val)]
    apply Spelled.spaces (fun c hc => List.mem_takeWhile_imp hc)
    rw [← skipSpace, hspace]
    exact .nil
  case h_2 => contradiction

/-! ### Values that are passed over -/

theorem key_of_skipKey {x : Rest s} (h : skipKey s = .ok x) :
  Key s x.val
  := by
  unfold skipKey at h
  split at h
  case h_1 r hr =>
    obtain ⟨y, hy, h⟩ := (bind_eq_ok _ _ _).mp h
    obtain ⟨z, hz, h⟩ := (bind_eq_ok _ _ _).mp h
    cases h
    obtain ⟨l, hl⟩ := exists_literal_of_closed (takes_of_skipString hy)
    refine ⟨l, .of_skipSpace (hr.trans hl) ?_⟩
    exact Consumes.trans (.token (.literal l) y.val) (consumes_of_readColon hz)
  case h_2 => contradiction
  case h_3 => contradiction

/-- What is before `r` in `s` closes the open containers, the innermost one first: whatever value
stands before `s`, it and what follows are the body of that container. -/
def Closes : List Frame → List Char → List Char → Prop
  | [], s, r => s = r
  | .list :: outer, s, r => ∃ t, (∀ q, Value q s → ListBody q t) ∧ Closes outer t r
  | .object :: outer, s, r => ∃ t, (∀ p q, Key p q → Value q s → ObjectBody p t) ∧ Closes outer t r

/-- What is before `r` in `s` is a value, and then what closes the open containers. -/
def Completes (frames : List Frame) (s r : List Char) : Prop :=
  ∃ t, Value s t ∧ Closes frames t r

variable {frames : List Frame}

namespace Closes

theorem endList (hs : Consumes [.mark .closeList] s t) (ht : Closes frames t r) :
  Closes (.list :: frames) s r
  := ⟨t, fun _ hq => .last hq hs, ht⟩

theorem item (hs : Consumes [.mark .comma] s t) (ht : Completes (.list :: frames) t r) :
  Closes (.list :: frames) s r
  := by
  obtain ⟨u, hvalue, w, hrest, hw⟩ := ht
  exact ⟨w, fun _ hq => .more hq hs (hrest t hvalue), hw⟩

theorem endObject (hs : Consumes [.mark .closeObject] s t) (ht : Closes frames t r) :
  Closes (.object :: frames) s r
  := ⟨t, fun _ _ hp hq => .last hp hq hs, ht⟩

theorem member (hs : Consumes [.mark .comma] s t) (ht : Key t u)
    (hu : Completes (.object :: frames) u r) :
  Closes (.object :: frames) s r
  := by
  obtain ⟨v, hvalue, w, hrest, hw⟩ := hu
  exact ⟨w, fun _ _ hp hq => .more hp hq hs (hrest t u ht hvalue), hw⟩

end Closes

/-- The first item of a list completes what stands around the list. -/
theorem Completes.list (hs : Consumes [.mark .openList] s t)
    (ht : Completes (.list :: frames) t r) :
  Completes frames s r
  := by
  obtain ⟨u, hvalue, w, hrest, hw⟩ := ht
  exact ⟨w, .list hs (hrest t hvalue), hw⟩

theorem Completes.object (hs : Consumes [.mark .openObject] s t) (ht : Key t u)
    (hu : Completes (.object :: frames) u r) :
  Completes frames s r
  := by
  obtain ⟨v, hvalue, w, hrest, hw⟩ := hu
  exact ⟨w, .object hs (hrest t u ht hvalue), hw⟩

/-- What passes over a value, and what passes over the ends of containers. -/
structure Skips (s : List Char) : Prop where
  inside (frames : List Frame) (x : Rest s) :
    skipInside frames s = .ok x → Completes frames s x.val
  closing (frames : List Frame) (x : Tail s) :
    skipClosing frames s = .ok x → Closes frames s x.val

theorem completes_of_skipInside (ih : ∀ t : Rest s, Skips t.val) {x : Rest s}
    (h : skipInside frames s = .ok x) :
  Completes frames s x.val
  := by
  unfold skipInside at h
  split at h
  case h_1 r hr =>
    have hopen : Consumes [.mark .openList] s r := .mark .openList hr
    simp only at h
    split at h
    case h_1 => contradiction
    case h_2 u hu =>
      obtain ⟨y, hy, h⟩ := (bind_eq_ok _ _ _).mp h
      cases h
      exact ⟨u, .emptyList hopen (.mark .closeList hu), (ih _).closing frames y hy⟩
    case h_3 =>
      obtain ⟨y, hy, h⟩ := (bind_eq_ok _ _ _).mp h
      cases h
      exact .list hopen ((ih _).inside _ y hy)
  case h_2 r hr =>
    have hopen : Consumes [.mark .openObject] s r := .mark .openObject hr
    simp only at h
    split at h
    case h_1 => contradiction
    case h_2 u hu =>
      obtain ⟨y, hy, h⟩ := (bind_eq_ok _ _ _).mp h
      cases h
      exact ⟨u, .emptyObject hopen (.mark .closeObject hu), (ih _).closing frames y hy⟩
    case h_3 =>
      obtain ⟨k, hk, h⟩ := (bind_eq_ok _ _ _).mp h
      obtain ⟨y, hy, h⟩ := (bind_eq_ok _ _ _).mp h
      cases h
      exact .object hopen (key_of_skipKey hk) ((ih _).inside _ y hy)
  case h_3 =>
    obtain ⟨v, hv, h⟩ := (bind_eq_ok _ _ _).mp h
    obtain ⟨y, hy, h⟩ := (bind_eq_ok _ _ _).mp h
    cases h
    exact ⟨v.val, .of_skipSpace rfl (value_of_skipScalar hv), (ih _).closing frames y hy⟩

theorem closes_of_skipClosing (ih : ∀ t : Rest s, Skips t.val) {x : Tail s}
    (h : skipClosing frames s = .ok x) :
  Closes frames s x.val
  := by
  unfold skipClosing at h
  split at h
  case h_1 =>
    cases h
    rfl
  case h_2 outer =>
    split at h
    case h_1 => contradiction
    case h_2 r hr =>
      obtain ⟨y, hy, h⟩ := (bind_eq_ok _ _ _).mp h
      cases h
      exact .item (.mark .comma hr) ((ih _).inside _ y hy)
    case h_3 r hr =>
      obtain ⟨y, hy, h⟩ := (bind_eq_ok _ _ _).mp h
      cases h
      exact .endList (.mark .closeList hr) ((ih _).closing outer y hy)
    case h_4 => contradiction
  case h_3 outer =>
    split at h
    case h_1 => contradiction
    case h_2 r hr =>
      obtain ⟨k, hk, h⟩ := (bind_eq_ok _ _ _).mp h
      obtain ⟨y, hy, h⟩ := (bind_eq_ok _ _ _).mp h
      cases h
      exact .member (.mark .comma hr) (key_of_skipKey hk) ((ih _).inside _ y hy)
    case h_3 r hr =>
      obtain ⟨y, hy, h⟩ := (bind_eq_ok _ _ _).mp h
      cases h
      exact .endObject (.mark .closeObject hr) ((ih _).closing outer y hy)
    case h_4 => contradiction

/-- Both take something off the text before they go on, so that the induction is on its length. -/
theorem skips (s : List Char) :
  Skips s
  := by
  have ih : ∀ t : Rest s, Skips t.val := fun t => skips t.val
  exact ⟨fun _ _ h => completes_of_skipInside ih h, fun _ _ h => closes_of_skipClosing ih h⟩
termination_by s.length
decreasing_by exact t.property

theorem value_of_skipValue {x : Rest s} (h : skipValue s = .ok x) :
  Value s x.val
  := by
  obtain ⟨t, hvalue, rfl⟩ := (skips s).inside [] x h
  exact hvalue

end MojoToolchain.Json.Grammar
