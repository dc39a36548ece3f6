import MojoToolchain.Proofs.Json.PrintedValues

/-!
# Written records are read back

A record is read back from an object that has the values of some of its fields, in order
(`Fills`), if the readers for these fields read them back.  The fields that the object lacks stay as
they are.
-/

namespace MojoToolchain.Json

variable {α σ : Type} {level : Nat}

/-- Members are written values of some fields of a record, in order; to store these values turns one
record into another. -/
inductive Fills (level : Nat) : List (Typed.Field σ) → Members → σ → σ → Prop
  | nil (a : σ) : Fills level [] [] a a
  | skip {field : Typed.Field σ} {fields : List (Typed.Field σ)} {ms : Members} {a b : σ}
      (h : Fills level fields ms a b) : Fills level (field :: fields) ms a b
  | set {field : Typed.Field σ} {fields : List (Typed.Field σ)} {v : Json} {ms : Members}
      {a b : σ} {store : σ → σ} (hread : ReadsBack field.read (prettyAt level v) store)
      (h : Fills level fields ms (store a) b) :
      Fills level (field :: fields) ((field.key, v) :: ms) a b

/-! ### What readers of records do -/

namespace Reads

variable {fields : List (Typed.Field σ)} {taken : List String} {field : Typed.Field σ}
  {key : String} {store : σ → σ} {a b : σ} {s t u v w x r : List Char}

theorem exists_readColon (h : skipSpace s = ':' :: r) :
  ∃ y, readColon s = .ok y ∧ y.val = r
  := by
  rw [readColon]
  split
  case h_1 h' => cases h.symm.trans h'
  case h_2 h' =>
    cases h.symm.trans h'
    exact ⟨_, rfl, rfl⟩
  case h_3 h' => exact absurd h (h' r)

theorem exists_nextKey (h : skipSpace s = '"' :: r) :
  ∃ y, nextKey s = .ok y ∧ y.val = '"' :: r
  := by
  rw [nextKey, h]
  exact ⟨_, rfl, h⟩

theorem exists_firstKey (h : skipSpace s = '"' :: r) :
  ∃ y, firstKey s = .ok (.inl y) ∧ y.val = '"' :: r
  := by
  rw [firstKey]
  split
  case h_1 h' => cases h.symm.trans h'
  case h_2 h' => cases h.symm.trans h'
  case h_3 => exact ⟨_, rfl, h⟩
  case h_4 h' => exact absurd h (h' r)

theorem lastMember (hkey : Reads readKey s key t) (hfree : taken.contains key = false)
    (hcolon : skipSpace t = ':' :: u) (hfind : fields.find? (·.key == key) = some field)
    (hvalue : Reads field.read u store v) (hv : skipSpace v = '\x7d' :: r) :
  Reads (Typed.members fields taken a) s (store a) r
  := by
  obtain ⟨x, hx, rfl⟩ := hkey
  obtain ⟨y, hy, rfl⟩ := exists_readColon hcolon
  obtain ⟨z, hz, rfl⟩ := hvalue
  rw [Reads, Typed.members]
  simp only [hx, hy, hz, hfree, hfind, Bind.bind, Except.bind, Bool.false_eq_true, if_false]
  split
  case h_1 h => cases hv.symm.trans h
  case h_2 h =>
    cases hv.symm.trans h
    exact ⟨_, rfl, rfl⟩
  case h_3 h => cases hv.symm.trans h
  case h_4 h _ => exact absurd hv (h r)

/-- A reader that goes on where another one has stopped. -/
theorem goOn {read : Typed α} {c : α} (start : Rest s) (h : Reads read start.val c r) :
  ∃ x, (read start.val >>= fun p => .ok (p.1, start.trans p.2) : Reading α s) = .ok (c, x) ∧
    x.val = r
  := by
  obtain ⟨q, hq, rfl⟩ := h
  rw [hq]
  exact ⟨_, rfl, rfl⟩

theorem moreMembers (hkey : Reads readKey s key t) (hfree : taken.contains key = false)
    (hcolon : skipSpace t = ':' :: u) (hfind : fields.find? (·.key == key) = some field)
    (hvalue : Reads field.read u store v) (hv : skipSpace v = ',' :: w)
    (hw : skipSpace w = '"' :: x)
    (hrest : Reads (Typed.members fields (key :: taken) (store a)) ('"' :: x) b r) :
  Reads (Typed.members fields taken a) s b r
  := by
  obtain ⟨x', hx, rfl⟩ := hkey
  obtain ⟨y, hy, rfl⟩ := exists_readColon hcolon
  obtain ⟨z, hz, rfl⟩ := hvalue
  obtain ⟨k, hk, hk'⟩ := exists_nextKey hw
  rw [← hk'] at hrest
  rw [Reads, Typed.members]
  simp only [hx, hy, hz, hfree, hfind, Bind.bind, Except.bind, Bool.false_eq_true, if_false]
  split
  case h_1 h => cases hv.symm.trans h
  case h_2 h => cases hv.symm.trans h
  case h_3 h =>
    cases hv.symm.trans h
    simp only [hk]
    exact goOn _ hrest
  case h_4 h => exact absurd hv (h w)

theorem emptyRecord {name : String} (hs : skipSpace s = '\x7b' :: t)
    (ht : skipSpace t = '\x7d' :: r) :
  Reads (Typed.record name fields a) s a r
  := by
  obtain ⟨y, hy, rfl⟩ : ∃ y, firstKey t = .ok (.inr y) ∧ y.val = r := by
    rw [firstKey]
    split
    case h_1 h => cases ht.symm.trans h
    case h_2 h =>
      cases ht.symm.trans h
      exact ⟨_, rfl, rfl⟩
    case h_3 h => cases ht.symm.trans h
    case h_4 h _ => exact absurd ht (h r)
  simp only [Reads, Typed.record]
  split
  case h_1 h => cases hs.symm.trans h
  case h_2 h =>
    cases hs.symm.trans h
    simp only [hy, Bind.bind, Except.bind]
    exact ⟨_, rfl, rfl⟩
  case h_3 h => exact absurd hs (h t)

theorem record {name : String} (hs : skipSpace s = '\x7b' :: t) (ht : skipSpace t = '"' :: u)
    (h : Reads (Typed.members fields [] a) ('"' :: u) b r) :
  Reads (Typed.record name fields a) s b r
  := by
  obtain ⟨y, hy, hy'⟩ := exists_firstKey ht
  rw [← hy'] at h
  obtain ⟨q, hq, rfl⟩ := h
  simp only [Reads, Typed.record]
  split
  case h_1 h => cases hs.symm.trans h
  case h_2 h =>
    cases hs.symm.trans h
    simp only [hy, hq, Bind.bind, Except.bind]
    exact ⟨_, rfl, rfl⟩
  case h_3 h => exact absurd hs (h t)

end Reads

/-! ### Written members -/

theorem skipSpace_quoted (level : Nat) (key : String) (r : List Char) :
  skipSpace (newLine level ++ (quoted key ++ r)) = quoted key ++ r
  := by
  rw [quoted_append, skipSpace_close rfl]

theorem skipSpace_lastMember (level : Nat) (key : String) (v : Json) (r : List Char) :
  skipSpace (prettyMembers level [(key, v)] ++ r)
    = quoted key ++ ':' :: ' ' :: (prettyAt level v ++ r)
  := by
  rw [← skipSpace_quoted level]
  simp [prettyMembers]

theorem skipSpace_moreMembers (level : Nat) (key : String) (v : Json) (m : String × Json)
    (ms : Members) (r : List Char) :
  skipSpace (prettyMembers level ((key, v) :: m :: ms) ++ r)
    = quoted key ++ ':' :: ' ' :: (prettyAt level v ++ ',' :: (prettyMembers level (m :: ms) ++ r))
  := by
  rw [← skipSpace_quoted level]
  simp [prettyMembers]

/-- Written members start with a key. -/
theorem exists_skipSpace_members (level : Nat) (m : String × Json) (ms : Members) (r : List Char) :
  ∃ t, skipSpace (prettyMembers level (m :: ms) ++ r) = '"' :: t
  := by
  obtain ⟨key, v⟩ := m
  cases ms with
  | nil => exact ⟨_, skipSpace_lastMember level key v r⟩
  | cons m' ms' => exact ⟨_, skipSpace_moreMembers level key v m' ms' r⟩

/-! ### Records -/

theorem find?_key {fields : List (Typed.Field σ)} (hkeys : (fields.map (·.key)).Nodup)
    {field : Typed.Field σ} (h : field ∈ fields) :
  fields.find? (·.key == field.key) = some field
  := by
  induction fields with
  | nil => cases h
  | cons first rest ih =>
    obtain ⟨hnot, hrest⟩ := List.nodup_cons.1 hkeys
    obtain rfl | h := List.mem_cons.1 h
    · exact List.find?_cons_of_pos (beq_self_eq_true _)
    · rw [List.find?_cons_of_neg]
      · exact ih hrest h
      · intro heq
        have hkey : first.key = field.key := eq_of_beq heq
        apply hnot
        simp only [hkey]
        exact List.mem_map_of_mem h

namespace Fills

variable {fields : List (Typed.Field σ)} {ms : Members} {a b : σ}

theorem eq_of_nil (h : Fills level fields [] a b) :
  a = b
  := by
  generalize hms : ([] : Members) = ms at h
  induction h with
  | nil => rfl
  | skip _ ih => exact ih hms
  | set => cases hms

/-- Members are read back by a reader for a record with these fields among others, none of which has
been read before. -/
theorem reads_members {all : List (Typed.Field σ)} {taken : List String}
    (h : Fills level fields ms a b) (hkeys : (all.map (·.key)).Nodup)
    (hsub : fields.Sublist all) (htaken : ∀ field ∈ fields, field.key ∉ taken) (hne : ms ≠ [])
    (outer : Nat) (r : List Char) :
  Reads (Typed.members all taken a)
    (skipSpace (prettyMembers level ms ++ (newLine outer ++ '\x7d' :: r))) b r
  := by
  induction h generalizing taken with
  | nil => exact absurd rfl hne
  | skip _ ih =>
    apply ih ((List.sublist_cons_self _ _).trans hsub) _ hne
    exact fun field hfield => htaken field (List.mem_cons_of_mem _ hfield)
  | @set field fields v ms a b store hread h ih =>
    have hfree : taken.contains field.key = false := by
      simpa using htaken field List.mem_cons_self
    have hfind := find?_key hkeys (hsub.subset List.mem_cons_self)
    have hcolon (t : List Char) : skipSpace (':' :: t) = ':' :: t := skipSpace_cons rfl t
    have hspace (t : List Char) :
        skipSpace (' ' :: (prettyAt level v ++ t)) = prettyAt level v ++ t :=
      hread.skipSpace_append t
    cases ms with
    | nil =>
      obtain rfl := h.eq_of_nil
      rw [skipSpace_lastMember]
      refine Reads.lastMember (reads_key field.key _) hfree (hcolon _) hfind ?_
        (skipSpace_close rfl outer r)
      exact hread.reads _ _ (hspace _) (endsNumber_cons (by decide) _)
    | cons m ms =>
      obtain ⟨t, ht⟩ := exists_skipSpace_members level m ms (newLine outer ++ '\x7d' :: r)
      have hrest : Reads (Typed.members all (field.key :: taken) (store a)) ('"' :: t) b r := by
        rw [← ht]
        apply ih ((List.sublist_cons_self _ _).trans hsub) _ (List.cons_ne_nil m ms)
        intro next hnext hmem
        obtain heq | hmem := List.mem_cons.1 hmem
        · apply (List.nodup_cons.1 (hkeys.sublist (hsub.map _))).1
          rw [← heq]
          exact List.mem_map_of_mem hnext
        · exact htaken next (List.mem_cons_of_mem _ hnext) hmem
      rw [skipSpace_moreMembers]
      refine Reads.moreMembers (reads_key field.key _) hfree (hcolon _) hfind ?_
        (skipSpace_cons rfl _) ht hrest
      exact hread.reads _ _ (hspace _) (endsNumber_cons (by decide) _)

/-- A record is read back from some of its fields. -/
theorem readsBack (h : Fills (level + 1) fields ms a b) (hkeys : (fields.map (·.key)).Nodup)
    (name : String) :
  ReadsBack (Typed.record name fields a) (prettyAt level (.object ms)) b
  := by
  cases ms with
  | nil =>
    obtain rfl := h.eq_of_nil
    refine ⟨⟨'\x7b', _, rfl, by decide⟩, ?_⟩
    intro s r hs hr
    exact Reads.emptyRecord hs (skipSpace_cons rfl r)
  | cons m ms =>
    refine ⟨⟨'\x7b', _, rfl, by decide⟩, ?_⟩
    intro s r hs hr
    obtain ⟨t, ht⟩ := exists_skipSpace_members (level + 1) m ms (newLine level ++ '\x7d' :: r)
    have hmembers := h.reads_members hkeys (List.Sublist.refl fields)
      (fun field _ => List.not_mem_nil) (List.cons_ne_nil m ms) level r
    rw [ht] at hmembers
    refine Reads.record ?_ ht hmembers
    rw [hs]
    simp [prettyAt]

end Fills

end MojoToolchain.Json
