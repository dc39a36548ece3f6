import MojoToolchain.Proofs.Debug.CompanionFields
import MojoToolchain.Proofs.Debug.Completion
import MojoToolchain.Proofs.Text.Words

/-!
# The two backends agree

A configuration that is completed for the SDK's own debugger and one that is translated for the
companion debugger run the same program, with the same arguments but for those for building a
file, which only the former is given.  The companion takes its arguments as one quoted text, which
a shell splits into them again.
-/

namespace MojoToolchain.Debug.Configuration

open Host (Question)

variable {sdk : Sdk} {c : Configuration} {e : DebugError}

/-! ### Arguments -/

/-- An argument that has a character that no quoting can pass on. -/
def HasNul (argument : String) : Prop := '\x00' ∈ argument.toList

theorem isUnquotable_iff {argument : String} :
  Words.isUnquotable argument = true ↔ HasNul argument
  := by
  simp [Words.isUnquotable, HasNul]

theorem quoteArguments_eq_ok {args : Option (List String)} {text : Option String}
    (h : quoteArguments args = .ok text) :
  (args = none ∧ text = none) ∨ ∃ list quoted, args = some list ∧ text = some quoted
    ∧ Words.split quoted = some list
  := by
  unfold quoteArguments at h
  split at h
  case h_1 =>
    cases h
    exact .inl ⟨rfl, rfl⟩
  case h_2 list =>
    split at h
    case h_1 quoted hjoin =>
      cases h
      exact .inr ⟨list, quoted, rfl, rfl, Words.split_join hjoin⟩
    case h_2 => cases h

/-- Arguments cannot be quoted exactly when one of them has a character that no quoting can pass
on; the first of these is named. -/
theorem quoteArguments_eq_error_iff {args : Option (List String)} :
  quoteArguments args = .error e ↔ ∃ list argument, args = some list
    ∧ list.find? Words.isUnquotable = some argument ∧ e = .unquotableArgument argument
  := by
  cases args with
  | none => simp [quoteArguments]
  | some list =>
    cases hfind : list.find? Words.isUnquotable with
    | none => simp [quoteArguments, Words.join, hfind]
    | some argument =>
      simp only [quoteArguments, Words.join, hfind, Except.error.injEq, Option.some.injEq]
      constructor
      · rintro rfl
        exact ⟨list, argument, rfl, hfind, rfl⟩
      · rintro ⟨_, argument', rfl, hfind', rfl⟩
        rw [Option.some.inj (hfind.symm.trans hfind')]

theorem exists_quoteArguments_eq_error_iff {args : Option (List String)} :
  (∃ e, quoteArguments args = .error e)
    ↔ ∃ list argument, args = some list ∧ argument ∈ list ∧ HasNul argument
  := by
  constructor
  · rintro ⟨e, h⟩
    obtain ⟨list, argument, hargs, hfind, -⟩ := quoteArguments_eq_error_iff.mp h
    exact ⟨list, argument, hargs, List.mem_of_find?_eq_some hfind,
      isUnquotable_iff.mp (List.find?_some hfind)⟩
  · rintro ⟨list, argument, hargs, hmem, hnul⟩
    obtain ⟨first, hfirst⟩ : ∃ first, list.find? Words.isUnquotable = some first := by
      apply Option.isSome_iff_exists.mp
      exact List.find?_isSome.mpr ⟨argument, hmem, isUnquotable_iff.mpr hnul⟩
    exact ⟨_, quoteArguments_eq_error_iff.mpr ⟨list, first, hargs, hfirst, rfl⟩⟩

/-- Arguments can be quoted exactly when no character in them stands in the way. -/
theorem exists_quoteArguments_eq_ok_iff {args : List String} :
  (∃ text, quoteArguments (some args) = .ok text) ↔ ∀ argument ∈ args, ¬ HasNul argument
  := by
  have herror := @exists_quoteArguments_eq_error_iff (some args)
  cases hquote : quoteArguments (some args) <;> simpa [hquote] using herror

/-- Arguments are quoted unless one of them has a character that no quoting can pass on.  A shell
splits the quoted text into the arguments again, whatever else they contain; the first argument
that cannot be passed on is the one that is named. -/
theorem quoted_arguments (args : List String) :
  ((∃ text, quoteArguments (some args) = .ok text) ↔ ∀ argument ∈ args, ¬ HasNul argument)
    ∧ (∀ text, quoteArguments (some args) = .ok text →
      ∃ quoted, text = some quoted ∧ Words.split quoted = some args)
    ∧ ∀ e, quoteArguments (some args) = .error e →
      ∃ before argument after, args = before ++ argument :: after
        ∧ (∀ a ∈ before, ¬ HasNul a) ∧ HasNul argument ∧ e = .unquotableArgument argument
  := by
  refine ⟨exists_quoteArguments_eq_ok_iff, ?_, ?_⟩
  case refine_1 =>
    intro text h
    obtain ⟨⟨⟩, -⟩ | ⟨_, quoted, ⟨⟩, htext, hsplit⟩ := quoteArguments_eq_ok h
    exact ⟨quoted, htext, hsplit⟩
  case refine_2 =>
    intro e h
    obtain ⟨_, argument, ⟨⟩, hfind, he⟩ := quoteArguments_eq_error_iff.mp h
    obtain ⟨hunquotable, before, after, hargs, hbefore⟩ := List.find?_eq_some_iff_append.mp hfind
    refine ⟨before, argument, after, hargs, fun a ha hnul => ?_, isUnquotable_iff.mp hunquotable,
      he⟩
    simpa [isUnquotable_iff.mpr hnul] using hbefore a ha

/-- Quotes, backslashes and line feeds do not stand in the way, and the second of four arguments
may be the first that is refused. -/
theorem quoted_arguments_mixed :
  (∃ quoted, quoteArguments (some ["it's", "", "^a\\", "#$HOME\n\"b\"!"]) = .ok (some quoted)
      ∧ Words.split quoted = some ["it's", "", "^a\\", "#$HOME\n\"b\"!"])
    ∧ ∃ e, quoteArguments (some ["ok", "bad\x00argument", "", "\x00"]) = .error e
      ∧ ∃ before argument after, ["ok", "bad\x00argument", "", "\x00"] = before ++ argument :: after
        ∧ (∀ a ∈ before, ¬ HasNul a) ∧ HasNul argument ∧ e = .unquotableArgument argument
  := by
  constructor
  · have hargs : ∀ argument ∈ ["it's", "", "^a\\", "#$HOME\n\"b\"!"], ¬ HasNul argument := by
      simp [HasNul]
    obtain ⟨text, htext⟩ := (quoted_arguments _).1.mpr hargs
    obtain ⟨quoted, rfl, hsplit⟩ := (quoted_arguments _).2.1 text htext
    exact ⟨quoted, htext, hsplit⟩
  · exact ⟨_, rfl, (quoted_arguments _).2.2 _ rfl⟩

/-- The arguments of a program without those for building the file that it runs, which stand
between the flags of the runtime and the file. -/
def WithoutBuild (c : Configuration) (args kept : List String) : Prop :=
  match c.launchedFile? with
  | none => kept = args
  | some file => ∃ programArgs,
      args = runFlags ++ c.buildArgs.getD [] ++ file :: programArgs
        ∧ kept = runFlags ++ file :: programArgs

/-- The arguments for the companion are those for the SDK's own debugger without those for
building. -/
theorem launchedArgs_nil_eq_some_iff {kept : List String} :
  c.launchedArgs [] = some kept
    ↔ ∃ args, c.launchedArgs (c.buildArgs.getD []) = some args ∧ c.WithoutBuild args kept
  := by
  unfold launchedArgs WithoutBuild
  cases c.launchedFile? with
  | none =>
    constructor
    · exact fun h => ⟨kept, h, rfl⟩
    · rintro ⟨args, h, rfl⟩
      exact h
  | some file =>
    simp only [runArguments, List.append_nil, Option.some.injEq]
    constructor
    · rintro rfl
      exact ⟨_, rfl, _, rfl, rfl⟩
    · rintro ⟨_, rfl, programArgs, heq, rfl⟩
      rw [(List.cons.inj (List.append_cancel_left heq)).2]

theorem launchedArgs_eq_none_iff (buildArgs : List String) :
  c.launchedArgs buildArgs = none ↔ c.launchedFile? = none ∧ c.args = none
  := by
  unfold launchedArgs
  cases c.launchedFile? <;> simp

/-- Without arguments for building, and without a file to run, nothing is left out. -/
theorem WithoutBuild.eq {args kept : List String} (h : c.WithoutBuild args kept)
    (hbuild : c.buildArgs.getD [] = [] ∨ c.launchedFile? = none) :
  kept = args
  := by
  unfold WithoutBuild at h
  split at h
  case h_1 => exact h
  case h_2 file hfile =>
    obtain ⟨programArgs, rfl, rfl⟩ := h
    rcases hbuild with hbuild | hnone
    · rw [hbuild, List.append_nil]
    · cases hnone.symm.trans hfile

/-! ### Agreement -/

theorem toCompanion_eq_error_iff :
  c.toCompanion sdk = .error e
    ↔ c.Refused sdk e ∨ checkLaunch sdk c = .ok () ∧ quoteArguments (c.launchedArgs []) = .error e
  := by
  rw [← checkLaunch_eq_error_iff, toCompanion, programOf_eq]
  cases checkLaunch sdk c with
  | error e' => simp [Except.map, Bind.bind, Except.bind]
  | ok =>
    cases hquote : quoteArguments (c.launchedArgs []) <;>
      simp [hquote, Except.map, Bind.bind, Except.bind, pure, Except.pure]

/-- A configuration whose file can be run fails to be translated exactly when an argument has a
character that no quoting can pass on. -/
theorem exists_error_iff (hcheck : checkLaunch sdk c = .ok ()) :
  (∃ e, c.toCompanion sdk = .error e)
    ↔ ∃ kept argument, c.launchedArgs [] = some kept ∧ argument ∈ kept ∧ HasNul argument
  := by
  rw [← exists_quoteArguments_eq_error_iff]
  constructor
  · rintro ⟨e, h⟩
    rcases toCompanion_eq_error_iff.mp h with h | ⟨-, h⟩
    · cases hcheck.symm.trans (checkLaunch_eq_error_iff.mpr h)
    · exact ⟨e, h⟩
  · rintro ⟨e, h⟩
    exact ⟨e, toCompanion_eq_error_iff.mpr (.inr ⟨hcheck, h⟩)⟩

/-- What one backend refuses, the other refuses for the same reason.  Else a configuration fails to
be translated exactly when an argument that is not for building has a character that no quoting
can pass on; and what it is translated to agrees with what it is completed to, the arguments as a
shell reads them. -/
theorem backends_agree (options : NormalizerOptions) (sdk : Sdk) (known : Option Bool)
    (c : Configuration) (host : (q : Question) → q.Answer) :
  (∀ e, ((c.complete options sdk known).answered host).1 = .error e → c.toCompanion sdk = .error e)
    ∧ ∀ n, ((c.complete options sdk known).answered host).1 = .ok n →
      ((∃ e, c.toCompanion sdk = .error e) ↔ ∃ args kept argument, n.args = some args
        ∧ c.WithoutBuild args kept ∧ argument ∈ kept ∧ HasNul argument)
      ∧ ∀ t, c.toCompanion sdk = .ok t →
        some t.request = n.request ∧ t.program = n.program ∧ t.name = n.name ∧ t.cwd = n.cwd
        ∧ t.processId = n.pid ∧ t.stopAtEntry = n.stopOnEntry ∧ t.extra = n.extra
        ∧ ((t.args = none ∧ n.args = none) ∨ ∃ text args kept, t.args = some text
          ∧ n.args = some args ∧ Words.split text = some kept ∧ c.WithoutBuild args kept
          ∧ (c.buildArgs.getD [] = [] ∨ c.launchedFile? = none → kept = args))
  := by
  rw [answered_complete]
  constructor
  · intro e h
    apply toCompanion_eq_error_iff.mpr
    left
    rw [← checkLaunch_eq_error_iff]
    cases hcheck : checkLaunch sdk c with
    | error e' =>
      rw [hcheck] at h
      cases h
      rfl
    | ok =>
      rw [hcheck] at h
      cases h
  · intro n h
    obtain ⟨⟨⟩, hcheck, rfl⟩ := (map_eq_ok _ _ _).mp h
    refine ⟨(exists_error_iff hcheck).trans ?_, fun t h => ?_⟩
    · simp only [launchedArgs_nil_eq_some_iff]
      constructor
      · rintro ⟨kept, argument, ⟨args, hargs, hbuild⟩, h⟩
        exact ⟨args, kept, argument, hargs, hbuild, h⟩
      · rintro ⟨args, kept, argument, hargs, hbuild, h⟩
        exact ⟨kept, argument, ⟨args, hargs, hbuild⟩, h⟩
    · obtain ⟨program, args, text, hprogram, htext, rfl⟩ := toCompanion_eq_ok.mp h
      rw [programOf_eq] at hprogram
      obtain ⟨-, -, heq⟩ := (map_eq_ok _ _ _).mp hprogram
      obtain ⟨rfl, rfl⟩ := Prod.mk.inj heq
      refine ⟨rfl, rfl, rfl, rfl, rfl, rfl, rfl, ?_⟩
      rcases quoteArguments_eq_ok htext with ⟨hnone, rfl⟩ | ⟨kept, text, hkept, rfl, hsplit⟩
      · refine .inl ⟨rfl, ?_⟩
        exact (launchedArgs_eq_none_iff _).mpr ((launchedArgs_eq_none_iff _).mp hnone)
      · obtain ⟨args, hargs, hbuild⟩ := launchedArgs_nil_eq_some_iff.mp hkept
        exact .inr ⟨text, args, kept, rfl, hargs, hsplit, hbuild, hbuild.eq⟩

/-- A configuration that runs a file with arguments that need quotes. -/
def quotedLaunch : Configuration :=
  { unset with
    mojoFile := some "/w/main.mojo"
    args := some ["it's", "$HOME", "a b", ""]
    buildArgs := some ["-D", "X=1"] }

theorem backends_agree_quotedLaunch :
  ∃ n t text, ((quotedLaunch.complete ⟨true, 300, true⟩ environmentSdk none).answered
      scriptingHost).1 = .ok n
    ∧ quotedLaunch.toCompanion environmentSdk = .ok t ∧ t.args = some text
    ∧ n.args = some (runFlags ++ ["-D", "X=1", "/w/main.mojo", "it's", "$HOME", "a b", ""])
    ∧ Words.split text = some (runFlags ++ ["/w/main.mojo", "it's", "$HOME", "a b", ""])
  := by
  have hcheck : checkLaunch environmentSdk quotedLaunch = .ok () := by decide +kernel
  have hn := answered_complete ⟨true, 300, true⟩ environmentSdk none quotedLaunch scriptingHost
  rw [hcheck] at hn
  obtain ⟨hfails, hagree⟩ :=
    (backends_agree ⟨true, 300, true⟩ environmentSdk none quotedLaunch scriptingHost).2 _ hn
  have hkept {args kept : List String}
      (hargs : quotedLaunch.launchedArgs ["-D", "X=1"] = some args)
      (hbuild : quotedLaunch.WithoutBuild args kept) :
      kept = runFlags ++ ["/w/main.mojo", "it's", "$HOME", "a b", ""] :=
    (Option.some.inj (launchedArgs_nil_eq_some_iff (c := quotedLaunch) |>.mpr
      ⟨args, hargs, hbuild⟩)).symm
  cases ht : quotedLaunch.toCompanion environmentSdk with
  | error e =>
    obtain ⟨args, kept, argument, hargs, hbuild, hmem, hnul⟩ := hfails.mp ⟨e, ht⟩
    rw [hkept hargs hbuild] at hmem
    have hnone : ∀ argument ∈ runFlags ++ ["/w/main.mojo", "it's", "$HOME", "a b", ""],
        '\x00' ∉ argument.toList := by
      decide +kernel
    exact absurd hnul (hnone argument hmem)
  | ok t =>
    obtain ⟨-, -, -, -, -, -, -, ⟨-, hnone⟩ | ⟨text, args, kept, htext, hargs, hsplit, hbuild, -⟩⟩ :=
      hagree t ht
    · cases hnone
    · exact ⟨_, t, text, hn, rfl, htext, rfl, hkept hargs hbuild ▸ hsplit⟩

end MojoToolchain.Debug.Configuration
