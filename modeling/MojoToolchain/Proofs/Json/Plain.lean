import MojoToolchain.Proofs.Json.Commas
import MojoToolchain.Proofs.Json.Comments
import MojoToolchain.Proofs.Json.Dialects
import MojoToolchain.Proofs.Json.Records
import MojoToolchain.Proofs.Json.Unambiguity

/-!
# The plain JSON of a text with comments

`plain` turns JSON with comments and trailing commas into JSON of the same value, and leaves JSON
as it is.  It turns other texts into JSON as well, exactly those of `Dialect.lenient`: a block
comment inside a word joins the two sides of it, one that is not closed reaches to the end, and a
comma may stand alone in a container.  Settings and launch files are loaded from such texts only.
-/

namespace MojoToolchain.Json.Grammar

variable {d : Dialect} {tree value : Tree} {s : List Char}

theorem withoutTrailing_tokens (tree : Tree) :
  withoutTrailing tree.tokens = tree.bare.tokens
  := by
  have h := tree.withoutTrailing_tokens []
  rw [List.append_nil] at h
  rw [h]
  exact List.append_nil _

/-- The plain text of a text of any dialect is JSON of the value that the text denotes. -/
theorem Written.plain (h : Written d tree s) :
  Written .json tree.bare (plain s)
  where
  permitted := tree.permitted_bare .json
  spelled := by
    rw [← withoutTrailing_tokens]
    exact h.spelled.dropComments.dropTrailingCommas

/-- JSON is its own plain text. -/
theorem Written.plain_eq (h : Written .json tree s) :
  Json.plain s = s
  := by
  rw [Json.plain, h.spelled.dropComments_eq]
  apply h.spelled.dropTrailingCommas_eq
  rw [withoutTrailing_tokens, tree.bare_of_permitted h.permitted]

/-- A text denotes one value only, whatever dialects it is read in. -/
theorem Written.bare_unique {e : Dialect} {v w : Tree} (hv : Written d v s) (hw : Written e w s) :
  v.bare = w.bare
  := hv.plain.tree_unique hw.plain

/-- What turns into JSON is a text of the lenient dialect. -/
theorem exists_text_of_plain (h : Written .json value (Json.plain s)) :
  ∃ tree : Tree, tree.bare = value ∧ Written .lenient tree s
  := by
  obtain ⟨ls, hls, hs⟩ := h.spelled.of_dropTrailingCommas
  rw [← value.bare_of_permitted h.permitted, ← List.append_nil value.bare.tokens] at hls
  obtain ⟨tree, ms, htree, rfl, hms⟩ := value.exists_of_withoutTrailing hls
  obtain rfl := eq_nil_of_withoutTrailing hms
  rw [List.append_nil] at hs
  refine ⟨tree, ?_, tree.permitted_of_commas rfl rfl, hs.of_dropComments⟩
  rw [htree, value.bare_of_permitted h.permitted]

/-! ### JSON with comments -/

/-- `plain` turns JSON with comments and trailing commas into JSON of the same value: the tokens
are those of the text without the trailing commas.  JSON stays as it is. -/
theorem plain_of_commented (tree : Tree) (s : List Char) :
  (Written .commented tree s →
      Written .json tree.bare (Json.plain s)
        ∧ tree.bare.tokens = withoutTrailing tree.tokens
        ∧ ∀ value, Written .json value (Json.plain s) → value = tree.bare)
    ∧ (Written .json tree s → Written .commented tree s ∧ Json.plain s = s)
  := by
  constructor
  · intro h
    refine ⟨h.plain, (withoutTrailing_tokens tree).symm, ?_⟩
    intro value hvalue
    exact hvalue.tree_unique h.plain
  · intro h
    exact ⟨h.mono Dialect.json_le_commented, h.plain_eq⟩

/-- The number one. -/
def one : Word := .whole ['1'] (by decide)

/-- The string literal of two slashes. -/
def slashes : Literal where
  body := ['/', '/']
  wellFormed := by
    apply Body.char (by decide) (by decide) (by decide)
    apply Body.char (by decide) (by decide) (by decide)
    exact .nil

/-- An object of one member, whose key looks like a comment, with a comma and a comment behind
it. -/
def remarked : List Char :=
  ['\x7b', '"', '/', '/', '"', ':', '1', ',', '/', '*', '*', '/', '\x7d']

theorem plain_of_commented_remarked :
  (Written .commented (.object (.last slashes (.word one) true)) remarked
      ∧ Written .json (.object (.last slashes (.word one) false)) (Json.plain remarked))
    ∧ Written .json (.word one) ['1'] ∧ Json.plain ['1'] = ['1']
  := by
  have hunclosed : Unclosed [] := by simp [Unclosed]
  have hremarked : Written .commented (.object (.last slashes (.word one) true)) remarked := by
    constructor
    · rfl
    · exact .token (.mark .openObject) (.token (.literal slashes) (.token (.mark .colon)
        (.token (.word one) (.token (.mark .comma)
          (.block (t := []) rfl hunclosed (.token (.mark .closeObject) .nil))))))
  have hone : Written .json (.word one) ['1'] := ⟨rfl, .token (.word one) .nil⟩
  refine ⟨⟨hremarked, ?_⟩, hone, ?_⟩
  · exact ((plain_of_commented _ remarked).1 hremarked).1
  · exact ((plain_of_commented (.word one) _).2 hone).2

/-! ### Texts that turn into JSON -/

/-- Settings are loaded from texts of the lenient dialect only. -/
theorem exists_text_of_settings {source : String} {settings : Settings}
    (h : Settings.parse source (String.ofList s) = .ok settings) :
  ∃ tree, Written .lenient tree s
  := by
  obtain ⟨value, hvalue⟩ := exists_written_of_settings h
  rw [String.toList_ofList] at hvalue
  obtain ⟨tree, -, htree⟩ := exists_text_of_plain hvalue
  exact ⟨tree, htree⟩

/-- Launch files are texts of the lenient dialect only. -/
theorem exists_text_of_launchFile {name : Option String} {configuration : Debug.Configuration}
    (h : Debug.LaunchFile.parse (String.ofList s) name = .ok configuration) :
  ∃ tree, Written .lenient tree s
  := by
  obtain ⟨value, hvalue⟩ := exists_written_of_launchFile h
  rw [String.toList_ofList] at hvalue
  obtain ⟨tree, -, htree⟩ := exists_text_of_plain hvalue
  exact ⟨tree, htree⟩

/-- `plain` turns a text into JSON of a value if and only if the text is one of the lenient
dialect that denotes the value.  JSON with comments is among these texts, and all texts that
settings or a configuration are loaded from are. -/
theorem plain_is_json_iff (value : Tree) (s : List Char) :
  (Written .json value (Json.plain s)
      ↔ (∃ tree, Written .lenient tree s)
        ∧ ∀ tree : Tree, Written .lenient tree s → tree.bare = value)
    ∧ (∀ tree, Written .commented tree s → Written .lenient tree s)
    ∧ (∀ source settings, Settings.parse source (String.ofList s) = .ok settings →
        ∃ tree, Written .lenient tree s)
    ∧ ∀ name configuration,
        Debug.LaunchFile.parse (String.ofList s) name = .ok configuration →
          ∃ tree, Written .lenient tree s
  := by
  refine ⟨⟨?_, ?_⟩, fun tree h => h.mono Dialect.commented_le_lenient,
    fun source settings h => exists_text_of_settings h,
    fun name configuration h => exists_text_of_launchFile h⟩
  · intro h
    obtain ⟨tree, rfl, htree⟩ := exists_text_of_plain h
    exact ⟨⟨tree, htree⟩, fun other hother => hother.bare_unique htree⟩
  · rintro ⟨⟨tree, htree⟩, hvalue⟩
    rw [← hvalue tree htree]
    exact htree.plain

/-- `plain` turns a text into JSON that is no JSON with comments. -/
def Mistaken (s : List Char) : Prop :=
  (∃ value, Written .json value (Json.plain s)) ∧ ¬ ∃ tree, Written .commented tree s

/-- The tokens of JSON with comments are those of the text without its comments. -/
theorem Written.tokens_eq_of_dropComments {ks : List Token} (h : Written d tree s)
    (hks : Spelled .json ks (Json.dropComments s)) (hapart : Apart ks) :
  tree.tokens = ks
  := h.spelled.dropComments.eq_of_apart hks tree.apart hapart

/-- The number twelve. -/
def twelve : Word := .whole ['1', '2'] (by decide)

/-- A list of the number twelve with a comment between its digits. -/
def parted : List Char := ['[', '1', '/', '*', '*', '/', '2', ']']

theorem spelled_parted :
  Spelled .json [.mark .openList, .word twelve, .mark .closeList] (Json.dropComments parted)
  := .token (.mark .openList) (.token (.word twelve) (.token (.mark .closeList) .nil))

theorem not_commented_parted :
  ¬ Written .commented tree parted
  := by
  intro h
  have hparted := h.spelled
  rw [h.tokens_eq_of_dropComments spelled_parted ⟨rfl, rfl, rfl, trivial⟩] at hparted
  obtain ⟨k, ks, s, hks, hs, h⟩ := hparted.exists_token_of_ne_slash rfl rfl (by decide)
  obtain ⟨rfl, rfl⟩ := List.cons.inj hks
  obtain rfl := (List.cons.inj hs).2
  obtain ⟨k, ks, s, hks, hs, -⟩ := h.exists_token_of_ne_slash rfl rfl (by decide)
  obtain ⟨rfl, rfl⟩ := List.cons.inj hks
  -- The number does not go on behind its first digit.
  exact absurd (List.cons.inj (List.cons.inj hs).2).1 (by decide)

/-- A list of no items with a comma. -/
def lonely : List Char := ['[', ',', ']']

theorem not_commented_lonely :
  ¬ Written .commented tree lonely
  := by
  intro h
  have hlonely : Spelled .json (Tree.emptyList true).tokens (Json.dropComments lonely) :=
    .token (.mark .openList) (.token (.mark .comma) (.token (.mark .closeList) .nil))
  obtain rfl := Tree.tokens_injective
    (h.tokens_eq_of_dropComments hlonely ⟨rfl, rfl, rfl, trivial⟩)
  exact absurd h.permitted (by decide)

/-- A number before a block comment that has no end. -/
def unended : List Char := ['1', '/', '*']

theorem not_commented_unended :
  ¬ Written .commented tree unended
  := by
  intro h
  have hunended : Spelled .json [.word one] (Json.dropComments unended) := .token (.word one) .nil
  have hspelled := h.spelled
  rw [h.tokens_eq_of_dropComments hunended ⟨rfl, trivial⟩] at hspelled
  obtain ⟨k, ks, s, hks, hs, h⟩ := hspelled.exists_token_of_ne_slash rfl rfl (by decide)
  obtain ⟨rfl, rfl⟩ := List.cons.inj hks
  obtain rfl := (List.cons.inj hs).2
  -- What is left is no comment, as it has no end.
  generalize hr : ['/', '*'] = r at h
  cases h with
  | nil => contradiction
  | space hc =>
    rw [← (List.cons.inj hr).1] at hc
    contradiction
  | line => simp at hr
  | block => simp at hr
  | openBlock hd => contradiction

/-- `plain` turns texts into JSON that are no JSON with comments: it joins the digits of a number
when it deletes a comment between them, drops a comma where no item is, and takes the end of the
text for the end of a comment. -/
theorem plain_accepts_more :
  Mistaken parted ∧ Mistaken lonely ∧ Mistaken unended
  := by
  refine ⟨⟨⟨.list (.last (.word twelve) false), rfl, spelled_parted⟩, ?_⟩,
    ⟨⟨.emptyList false, rfl, ?_⟩, ?_⟩, ⟨⟨.word one, rfl, .token (.word one) .nil⟩, ?_⟩⟩
  · rintro ⟨tree, h⟩
    exact not_commented_parted h
  · exact .token (.mark .openList) (.space rfl (.token (.mark .closeList) .nil))
  · rintro ⟨tree, h⟩
    exact not_commented_lonely h
  · rintro ⟨tree, h⟩
    exact not_commented_unended h

end MojoToolchain.Json.Grammar
