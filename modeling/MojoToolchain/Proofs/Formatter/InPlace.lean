import MojoToolchain.CommandLine.Run
import MojoToolchain.Proofs.Host.Disk
import MojoToolchain.Proofs.Sdk.ReadOnly
import MojoToolchain.Sdk.Layout

/-!
# Formatting in place

A formatter does its work on a file (`Formatter.Formats`) when the file holds a text, the formatter
takes all of it, ends with success and answers with a text.  Then, and only then, the file holds
what the formatter has written; whatever else happens, the disk is as it was.  A check never
changes a file, and prints what formatting would do (`formatting_in_place`).
-/

namespace MojoToolchain

open Host (Behaviour Dialogue Disk PipeFault PipedOutput Question)
open Host.Dialogue (Asks ReadsOnly)

namespace Formatter

/-! ### A host that does not change -/

section

variable (host : (q : Question) → q.Answer)

theorem answered_readText_eq_ok (file : Path) (text : String) :
  (Dialogue.readText file).answered host = .ok text ↔ host (.read file) = .ok text.toUTF8
  := by
  constructor
  · intro h
    simp only [Dialogue.readText, Bind.bind, Pure.pure, Dialogue.answered_bind, Dialogue.question,
      Dialogue.answered] at h
    split at h
    · cases h
    case h_2 bytes hread =>
      split at h
      · cases h
      case h_2 text' htext =>
        cases h
        rw [hread, (Text.decode_eq_ok bytes text).1 htext]
  · intro h
    apply Dialogue.answered_readText h (Text.decode_toUTF8 text)

/-- A formatter gives a text for a source: it ends with success, it has taken the whole source, and
what it has written is the text. -/
structure Gives (output : PipedOutput) (text : String) : Prop where
  succeeds : output.exitCode = some 0
  delivered : output.undelivered = none
  written : output.stdout = text.toUTF8

theorem conclude_eq_ok (f : Formatter) (result : Except PipeFault PipedOutput) (text : String) :
  f.conclude result = .ok text ↔ ∃ output, result = .ok output ∧ Gives output text
  := by
  constructor
  · intro h
    cases result with
    | error fault => cases fault <;> cases h
    | ok output =>
      use output, rfl
      simp only [conclude] at h
      split at h
      · cases h
      case isFalse hcode =>
        split at h
        · cases h
        · cases h
        case h_3 hundelivered htext =>
          cases h
          exact ⟨by simpa using hcode, hundelivered, (Text.decode_eq_ok _ _).1 htext⟩
  · rintro ⟨output, rfl, hcode, hundelivered, hwritten⟩
    simp only [conclude, hcode, bne_self_eq_false, Bool.false_eq_true, if_false, hundelivered,
      hwritten, Text.decode_toUTF8]

theorem answered_formatted_eq_ok (f : Formatter) (file : Path) (source text : String) :
  (f.formatted file).answered host = .ok (source, text)
    ↔ host (.read file) = .ok source.toUTF8 ∧
        ∃ output, host (.pipe f.invocation source) = .ok output ∧ Gives output text
  := by
  rw [← answered_readText_eq_ok, ← conclude_eq_ok f]
  simp only [formatted, Bind.bind, Dialogue.answered_bind]
  cases (Dialogue.readText file).answered host with
  | error fault => simp [Pure.pure, Dialogue.answered]
  | ok source' =>
    have hask : (f.formatText source').answered host
        = f.conclude (host (.pipe f.invocation source')) := rfl
    simp only [Dialogue.answered_bind, hask]
    constructor
    · intro h
      cases hrun : f.conclude (host (.pipe f.invocation source')) with
      | error e =>
        rw [hrun] at h
        cases h
      | ok text' =>
        rw [hrun] at h
        cases h
        exact ⟨rfl, hrun⟩
    · rintro ⟨hsource, hrun⟩
      cases hsource
      rw [hrun]
      rfl

end

/-! ### Formatting a file -/

variable {b : Behaviour} {d : Disk} {f : Formatter} {file : Path} {source : String}
  {output : PipedOutput}

/-- A formatter does its work on a file: the file holds a source, the formatter takes all of it,
ends with success, and what it writes is a text. -/
structure Formats (f : Formatter) (b : Behaviour) (d : Disk) (file : Path) (source : String)
    (output : PipedOutput) : Prop where
  reads : d.read file = .ok source.toUTF8
  runs : b.pipe d f.invocation source = .ok output
  succeeds : output.exitCode = some 0
  delivered : output.undelivered = none
  isText : output.stdout.IsValidUTF8

theorem Formats.formatted (h : f.Formats b d file source output) :
  (f.formatted file).answered (b.reply d) = .ok (source, String.fromUTF8 output.stdout h.isText)
  := by
  apply (answered_formatted_eq_ok (b.reply d) f file _ _).2
  exact ⟨h.reads, output, h.runs, h.succeeds, h.delivered, rfl⟩

theorem formats_of_formatted {text : String}
    (h : (f.formatted file).answered (b.reply d) = .ok (source, text)) :
  ∃ output, f.Formats b d file source output ∧ output.stdout = text.toUTF8
  := by
  obtain ⟨hread, output, hrun, hgives⟩ := (answered_formatted_eq_ok (b.reply d) f file _ _).1 h
  refine ⟨output, ⟨hread, hrun, hgives.succeeds, hgives.delivered, ?_⟩, hgives.written⟩
  rw [hgives.written]
  exact text.isValidUTF8

theorem readsOnly_readText (file : Path) :
  (Dialogue.readText file).ReadsOnly
  := by
  apply Asks.bind (.question id)
  intro bytes
  split
  · trivial
  · split
    · trivial
    · trivial

theorem readsOnly_formatText (f : Formatter) (source : String) :
  (f.formatText source).ReadsOnly
  := .bind (.question id) fun _ => trivial

theorem readsOnly_formatted (f : Formatter) (file : Path) :
  (f.formatted file).ReadsOnly
  := by
  apply Asks.bind (readsOnly_readText file)
  intro source
  split
  · trivial
  · apply Asks.bind (readsOnly_formatText f _)
    intro text
    split
    · trivial
    · trivial

/-- What is done with a file and its formatted text. -/
theorem converse_formatFile (b : Behaviour) (d : Disk) (f : Formatter) (file : Path) :
  b.converse d (f.formatFile file)
    = match (f.formatted file).answered (b.reply d) with
      | .error e => (.error e, d)
      | .ok (source, text) =>
        if text = source then (.ok false, d)
        else
          match d.write file text.toUTF8 with
          | .error fault => (.error (.io fault), d)
          | .ok d' => (.ok true, d')
  := by
  simp only [formatFile, Bind.bind, Behaviour.converse_bind,
    Behaviour.converse_of_readsOnly (readsOnly_formatted f file)]
  cases (f.formatted file).answered (b.reply d) with
  | error e => rfl
  | ok pair =>
    obtain ⟨source, text⟩ := pair
    by_cases h : text = source
    · simp only [h, beq_self_eq_true, if_true]
      rfl
    · simp only [h, beq_false_of_ne h, Bool.false_eq_true, if_false, Dialogue.question,
        Dialogue.bind, Behaviour.converse_ask, Behaviour.reply, Disk.after]
      cases d.write file text.toUTF8 with
      | error fault => rfl
      | ok d' => rfl

/-- A file that can be read can be written, so formatting it succeeds when the formatter does. -/
theorem converse_formatFile_of_formatted {text : String}
    (h : (f.formatted file).answered (b.reply d) = .ok (source, text)) :
  (text = source ∧ b.converse d (f.formatFile file) = (.ok false, d)) ∨
    (text ≠ source ∧ ∃ d', b.converse d (f.formatFile file) = (.ok true, d') ∧
      d.Rewritten d' file text.toUTF8)
  := by
  rw [converse_formatFile, h]
  by_cases heq : text = source
  · left
    exact ⟨heq, if_pos heq⟩
  · right
    obtain ⟨hread, -⟩ := (answered_formatted_eq_ok (b.reply d) f file source text).1 h
    obtain ⟨d', hwrite, hd'⟩ := Disk.write_of_read hread text.toUTF8
    refine ⟨heq, d', ?_, hd'⟩
    simp only [heq, if_false, hwrite]

theorem converse_formatFile_of_error {e : ToolError}
    (h : (f.formatted file).answered (b.reply d) = .error e) :
  b.converse d (f.formatFile file) = (.error e, d)
  := by
  rw [converse_formatFile, h]

/-- Formatting a file succeeds when there is a formatted text for it. -/
theorem converse_formatFile_eq_ok (b : Behaviour) (d : Disk) (f : Formatter) (file : Path)
    (changed : Bool) :
  (b.converse d (f.formatFile file)).1 = .ok changed
    ↔ ∃ source text, (f.formatted file).answered (b.reply d) = .ok (source, text) ∧
        changed = (text != source)
  := by
  cases hformatted : (f.formatted file).answered (b.reply d) with
  | error e => simp [converse_formatFile_of_error hformatted]
  | ok pair =>
    obtain ⟨source, text⟩ := pair
    obtain ⟨heq, hdone⟩ | ⟨hne, d', hdone, -⟩ := converse_formatFile_of_formatted hformatted
    · simp [hdone, heq]
    · simp [hdone, bne_iff_ne.2 hne, eq_comm]

/-- What a formatter has written is in the file when it is not what the file held before. -/
theorem Formats.changed (h : f.Formats b d file source output)
    (hne : output.stdout ≠ source.toUTF8) :
  (b.converse d (f.formatFile file)).1 = .ok true ∧
    d.Rewritten (b.converse d (f.formatFile file)).2 file output.stdout
  := by
  obtain ⟨heq, -⟩ | ⟨-, d', hdone, hd'⟩ := converse_formatFile_of_formatted h.formatted
  · exact absurd (congrArg String.toUTF8 heq) hne
  · rw [hdone]
    exact ⟨rfl, hd'⟩

/-- A formatted file stays as it is. -/
theorem Formats.unchanged (h : f.Formats b d file source output)
    (heq : output.stdout = source.toUTF8) :
  b.converse d (f.formatFile file) = (.ok false, d)
  := by
  obtain ⟨-, hdone⟩ | ⟨hne, -⟩ := converse_formatFile_of_formatted h.formatted
  · exact hdone
  · exact absurd (String.toByteArray_inj.1 heq) hne

/-- Nothing changes when a formatter does not do its work. -/
theorem error_of_not_formats (h : ∀ source output, ¬ f.Formats b d file source output) :
  ∃ e, b.converse d (f.formatFile file) = (.error e, d)
  := by
  cases hformatted : (f.formatted file).answered (b.reply d) with
  | error e => exact ⟨e, converse_formatFile_of_error hformatted⟩
  | ok pair =>
    obtain ⟨output, hformats, -⟩ := formats_of_formatted hformatted
    exact absurd hformats (h pair.1 output)

end Formatter

/-! ### Checking a file -/

namespace CommandLine

/-- A check tells of a file whether formatting would change it: it shows the file and the answer,
the program prints them, and its status is 1 if there would be a change. -/
structure Tells (e : Ending) (file : Path) (changed : Bool) : Prop where
  shows : ∃ content, e.result
    = .ok ⟨.object [("file", .string file.text), ("changed", .bool changed)], content⟩
  prints : e.report.output
    = "\x7b\n  \"file\": " ++ String.ofList (Json.quoted file.text) ++ ",\n  \"changed\": "
      ++ (if changed then "true" else "false") ++ "\n\x7d\n"
  status : e.report.status = if changed then 1 else 0

/-- What a check shows settles what is printed and the status. -/
theorem tells_iff (e : Ending) (file : Path) (changed : Bool) :
  Tells e file changed
    ↔ e.result = .ok ⟨.object [("file", .string file.text), ("changed", .bool changed)], !changed⟩
  := by
  constructor
  · rintro ⟨⟨content, hresult⟩, -, hstatus⟩
    rw [Ending.report, hresult] at hstatus
    rw [hresult]
    cases content <;> cases changed <;> first | rfl | cases hstatus
  · intro hresult
    refine ⟨⟨_, hresult⟩, ?_, ?_⟩
    · rw [Ending.report, hresult]
      apply String.toList_inj.mp
      cases changed <;> simp [Json.prettyString, Json.prettyAt, Json.prettyMembers, Json.scalarText,
        Json.newLine, Json.quoted, Json.escape]
    · rw [Ending.report, hresult]
      cases changed <;> rfl

theorem readsOnly_checkFormat (f : Formatter) (file : Path) :
  (checkFormat f file).ReadsOnly
  := by
  apply Asks.bind (Formatter.readsOnly_readText file)
  intro source
  split
  · trivial
  · apply Asks.bind
    · apply Asks.bind (Formatter.readsOnly_formatText f _)
      intro text
      split
      · trivial
      · trivial
    · intro changed
      split
      · trivial
      · trivial

/-- A check succeeds when there is a formatted text, and shows whether that differs. -/
theorem answered_checkFormat (host : (q : Question) → q.Answer) (f : Formatter) (file : Path)
    (shown : Display) :
  ((checkFormat f file).answered host).result = .ok shown
    ↔ ∃ source text, (f.formatted file).answered host = .ok (source, text) ∧
        shown = ⟨.object [("file", .string file.text), ("changed", .bool (text != source))],
          !(text != source)⟩
  := by
  simp only [checkFormat, Formatter.formatted, Formatter.changes, Bind.bind,
    Dialogue.answered_bind]
  cases (Dialogue.readText file).answered host with
  | error fault => simp [Pure.pure, Dialogue.answered, Ending.fail]
  | ok source =>
    simp only [Dialogue.answered_bind]
    cases (f.formatText source).answered host with
    | error e => simp [Pure.pure, Dialogue.answered, Ending.fail]
    | ok text => simp [Pure.pure, Dialogue.answered, formatDisplay, eq_comm]

theorem readsOnly_withSdk (s : Scene) (failure : Failure) {next : Sdk → Dialogue Ending}
    (h : ∀ sdk, (next sdk).ReadsOnly) :
  (s.withSdk failure next).ReadsOnly
  := by
  apply Asks.bind (Sdk.readsOnly_lookUp s.terminal)
  rintro ⟨sdk, messages⟩
  cases sdk with
  | none => trivial
  | some sdk => exact .bind (h sdk) fun _ => trivial

/-- A command that needs an SDK shows something when there is one and what follows does. -/
theorem answered_withSdk (host : (q : Question) → q.Answer) (s : Scene) (failure : Failure)
    (next : Sdk → Dialogue Ending) (shown : Display) :
  ((s.withSdk failure next).answered host).result = .ok shown
    ↔ ∃ sdk, (s.lookUp.answered host).1 = some sdk ∧
        ((next sdk).answered host).result = .ok shown
  := by
  simp only [Scene.withSdk, Bind.bind, Dialogue.answered_bind]
  cases s.lookUp.answered host with
  | mk sdk messages =>
    cases sdk with
    | none => simp [Pure.pure, Dialogue.answered, Ending.fail, Ending.after]
    | some sdk => simp [Pure.pure, Dialogue.answered, Ending.after]

variable (s : Scene) (file : Path) (lineLength : Option UInt32)

/-- The formatter of an SDK that a command runs on a file. -/
def Scene.formatter (sdk : Sdk) : Formatter where
  command := sdk.tools.formatter
  env := sdk.environment s.settings.telemetryOn
  lineLength := lineLength.getD s.settings.lineLength

theorem readsOnly_format_check :
  (format s file lineLength true).ReadsOnly
  := readsOnly_withSdk s _ fun _ => readsOnly_checkFormat _ _

/-- A check shows something when there are an SDK and a formatted text. -/
theorem answered_format_check (host : (q : Question) → q.Answer) (shown : Display) :
  ((format s file lineLength true).answered host).result = .ok shown
    ↔ ∃ sdk, (s.lookUp.answered host).1 = some sdk ∧
        ∃ source text,
          ((s.formatter lineLength sdk).formatted (s.locate file)).answered host
            = .ok (source, text) ∧
          shown = ⟨.object [("file", .string (s.locate file).text),
            ("changed", .bool (text != source))], !(text != source)⟩
  := by
  rw [format, answered_withSdk]
  simp only [if_true, answered_checkFormat]
  rfl

variable (b : Behaviour) (d : Disk)

/-- A check tells what formatting the file with the same formatter answers. -/
theorem tells_format_check (changed : Bool) :
  Tells (b.converse d (format s file lineLength true)).1 (s.locate file) changed
    ↔ ∃ sdk, (b.converse d s.lookUp).1.1 = some sdk ∧
        (b.converse d ((s.formatter lineLength sdk).formatFile (s.locate file))).1 = .ok changed
  := by
  have hlookUp : s.lookUp.ReadsOnly := Sdk.readsOnly_lookUp s.terminal
  rw [Behaviour.converse_of_readsOnly (readsOnly_format_check s file lineLength),
    Behaviour.converse_of_readsOnly hlookUp, tells_iff, answered_format_check]
  constructor
  · rintro ⟨sdk, hsdk, source, text, hformatted, hshown⟩
    refine ⟨sdk, hsdk, (Formatter.converse_formatFile_eq_ok ..).mpr ⟨source, text, hformatted, ?_⟩⟩
    simpa using congrArg (fun shown : Display => !shown.content) hshown
  · rintro ⟨sdk, hsdk, hchanged⟩
    obtain ⟨source, text, hformatted, rfl⟩ := (Formatter.converse_formatFile_eq_ok ..).mp hchanged
    exact ⟨sdk, hsdk, source, text, hformatted, rfl⟩

/-- A check that tells nothing fails, and prints nothing. -/
theorem error_of_not_tells
    (h : ∀ changed,
      ¬ Tells (b.converse d (format s file lineLength true)).1 (s.locate file) changed) :
  ∃ failure, (b.converse d (format s file lineLength true)).1.result = .error failure ∧
    (b.converse d (format s file lineLength true)).1.report.status = 1 ∧
    (b.converse d (format s file lineLength true)).1.report.output = ""
  := by
  cases hresult : (b.converse d (format s file lineLength true)).1.result with
  | error failure =>
    refine ⟨failure, rfl, ?_, report_output_of_error hresult⟩
    rw [Ending.report, hresult]
  | ok shown =>
    have hshown := hresult
    rw [Behaviour.converse_of_readsOnly (readsOnly_format_check s file lineLength),
      answered_format_check] at hshown
    obtain ⟨-, -, source, text, -, rfl⟩ := hshown
    exact absurd ((tells_iff ..).mpr hresult) (h _)

end CommandLine

/-- When a formatter does its work on a file and writes something else than the file holds, the file
holds that afterwards, and nothing else has changed.  When it writes what the file holds, nothing
has changed; when it does not do its work, nothing has changed either, and that is an error.  A
check asks for no change.  It tells whether there would be a change exactly when formatting the
file with the same formatter would answer that; in every other case it fails, and prints nothing. -/
theorem formatting_in_place (b : Behaviour) (d : Disk) :
  (∀ (f : Formatter) (file : Path),
    (∀ source output, f.Formats b d file source output → output.stdout ≠ source.toUTF8 →
        (b.converse d (f.formatFile file)).1 = .ok true ∧
          d.Rewritten (b.converse d (f.formatFile file)).2 file output.stdout) ∧
      (∀ source output, f.Formats b d file source output → output.stdout = source.toUTF8 →
        b.converse d (f.formatFile file) = (.ok false, d)) ∧
      ((∀ source output, ¬ f.Formats b d file source output) →
        ∃ e, b.converse d (f.formatFile file) = (.error e, d))) ∧
    ∀ (s : CommandLine.Scene) (file : Path) (lineLength : Option UInt32),
      (CommandLine.format s file lineLength true).ReadsOnly ∧
        (b.converse d (CommandLine.format s file lineLength true)).2 = d ∧
        (∀ changed,
          CommandLine.Tells (b.converse d (CommandLine.format s file lineLength true)).1
              (s.locate file) changed
            ↔ ∃ sdk, (b.converse d s.lookUp).1.1 = some sdk ∧
                (b.converse d (Formatter.formatFile
                  { command := sdk.tools.formatter
                    env := sdk.environment s.settings.telemetryOn
                    lineLength := lineLength.getD s.settings.lineLength }
                  (s.locate file))).1 = .ok changed) ∧
        ((∀ changed,
          ¬ CommandLine.Tells (b.converse d (CommandLine.format s file lineLength true)).1
              (s.locate file) changed) →
          ∃ failure,
            (b.converse d (CommandLine.format s file lineLength true)).1.result = .error failure ∧
              (b.converse d (CommandLine.format s file lineLength true)).1.report.status = 1 ∧
              (b.converse d (CommandLine.format s file lineLength true)).1.report.output = "")
  := by
  refine ⟨?_, ?_⟩
  · intro f file
    exact ⟨fun _ _ => Formatter.Formats.changed, fun _ _ => Formatter.Formats.unchanged,
      Formatter.error_of_not_formats⟩
  intro s file lineLength
  have hreads := CommandLine.readsOnly_format_check s file lineLength
  refine ⟨hreads, ?_, CommandLine.tells_format_check s file lineLength b d,
    CommandLine.error_of_not_tells s file lineLength b d⟩
  rw [Behaviour.converse_of_readsOnly hreads]

/-- A check of a file that the formatter of the active environment would change. -/
example :
  ((Behaviour.mk (fun _ _ => .error .notFound)
      (fun _ _ _ => .ok ⟨"y".toUTF8, .empty, some 0, none⟩)).converse
    ((Sdk.Layout.install ⟨none, none, none, none, none, []⟩ "/env" ⟨[], []⟩).addFile "/w/a.mojo"
      "x".toUTF8 false)
    (CommandLine.format ⟨"/w", .unset, ⟨"/w", some "/env"⟩⟩ "a.mojo" none true)).1.report
    = ⟨1, "\x7b\n  \"file\": \"/w/a.mojo\",\n  \"changed\": true\n\x7d\n", ""⟩
  := by decide +kernel

/-- A formatter that succeeds without having read all of the source. -/
example :
  (Behaviour.mk (fun _ _ => .error .notFound)
      (fun _ _ _ => .ok ⟨"y".toUTF8, .empty, some 0, some .brokenPipe⟩)).converse
    ⟨[([['a']], .file "x".toUTF8 false)], []⟩ ((Formatter.atPath "/f").formatFile "/a")
    = (.error (.io .brokenPipe), ⟨[([['a']], .file "x".toUTF8 false)], []⟩)
  := by rfl

end MojoToolchain
