import MojoToolchain.CommandLine.Run
import MojoToolchain.Proofs.Json.Plain
import MojoToolchain.Proofs.Json.PrintedRecords

/-!
# Written settings are read back

What the program writes for settings is read as the same settings, whatever texts and numbers they
hold and whichever of them are set (`printed_settings`).  It is JSON, so nothing of it is taken for
a comment or for a trailing comma.
-/

namespace MojoToolchain.Settings

open Json (Fills ReadsBack Typed memberOf prettyAt)

variable {α σ : Type} {level : Nat}

/-! ### Fields that may be unset -/

/-- A setting is read back when its value is; one that is unset is not written. -/
theorem fills_memberOf {key : String} {item : Typed α} {store : Option α → σ → σ}
    {value : Option α} {json : α → Json} {fields : List (Typed.Field σ)} {ms : Json.Members}
    {a b : σ} (hitem : ∀ v, ReadsBack item (prettyAt level (json v)) v)
    (hnone : store none a = a) (h : Fills level fields ms (store value a) b) :
  Fills level (field key item store :: fields) (memberOf key value json ++ ms) a b
  := by
  cases value with
  | none =>
    rw [hnone] at h
    exact .skip h
  | some v => exact .set ((hitem v).optional.map store) h

/-! ### Values of settings -/

theorem readsBack_word64 (n : UInt64) :
  ReadsBack word64 (prettyAt level (.natural n.toNat)) n
  := by
  have hlt : n.toNat < 1 <<< 64 := n.toNat_lt
  have h := (ReadsBack.unsigned hlt (Nat.le_of_lt_succ hlt) level).map UInt64.ofNat
  rw [UInt64.ofNat_toNat] at h
  exact h

theorem readsBack_word32 (n : UInt32) :
  ReadsBack word32 (prettyAt level (.natural n.toNat)) n
  := by
  have hlt : n.toNat < 1 <<< 32 := n.toNat_lt
  have hle : n.toNat ≤ Json.maxInteger := Nat.le_of_lt (Nat.lt_trans hlt (by decide))
  have h := (ReadsBack.unsigned hlt hle level).map UInt32.ofNat
  rw [UInt32.ofNat_toNat] at h
  exact h

theorem readsBack_path (p : Path) :
  ReadsBack path (prettyAt level (.string p.text)) p
  := (ReadsBack.text .path p.text).map Path.mk

theorem readsBack_texts (ts : List String) :
  ReadsBack texts (prettyAt level (.strings ts)) ts
  := ReadsBack.list fun t _ => ReadsBack.text .text t

theorem readsBack_debugSettings (s : DebugSettings) :
  ReadsBack debugSettings (prettyAt level (debugJson s)) s
  := by
  apply Fills.readsBack _ (by decide)
  rw [← List.append_nil (memberOf "sortVisualizers" _ _)]
  apply fills_memberOf readsBack_word64 rfl
  apply fills_memberOf ReadsBack.boolean rfl
  exact .nil s

theorem readsBack_formatterSettings (s : FormatterSettings) :
  ReadsBack formatterSettings
    (prettyAt level (.object (memberOf "lineLength" s.lineLength fun n => .natural n.toNat))) s
  := by
  apply Fills.readsBack _ (by decide)
  rw [← List.append_nil (memberOf _ _ _)]
  apply fills_memberOf readsBack_word32 rfl
  exact .nil s

theorem readsBack_serverSettings (s : ServerSettings) :
  ReadsBack serverSettings
    (prettyAt level (.object (memberOf "extraArgs" s.extraArgs .strings))) s
  := by
  apply Fills.readsBack _ (by decide)
  rw [← List.append_nil (memberOf _ _ _)]
  apply fills_memberOf readsBack_texts rfl
  exact .nil s

theorem readsBack_extensionSettings (s : ExtensionSettings) :
  ReadsBack extensionSettings
    (prettyAt level (.object (memberOf "installed" s.installed .strings))) s
  := by
  apply Fills.readsBack _ (by decide)
  rw [← List.append_nil (memberOf _ _ _)]
  apply fills_memberOf readsBack_texts rfl
  exact .nil s

/-- Settings are read back. -/
theorem readsBack_settings (s : Settings) :
  ReadsBack typed (prettyAt level s.json) s
  := by
  apply Fills.readsBack _ (by decide)
  simp only [List.append_assoc]
  rw [← List.append_nil (memberOf "extensions" _ _)]
  apply fills_memberOf (ReadsBack.text .text) rfl
  apply fills_memberOf ReadsBack.boolean rfl
  apply fills_memberOf readsBack_path rfl
  apply fills_memberOf readsBack_debugSettings rfl
  apply fills_memberOf readsBack_formatterSettings rfl
  apply fills_memberOf readsBack_serverSettings rfl
  apply fills_memberOf readsBack_extensionSettings rfl
  exact .nil s

/-! ### What the program writes -/

/-- Settings are read back from what is written for them, with white space behind it, and this text
is JSON. -/
theorem parse_written (s : Settings) (source : String) {r : List Char} (hr : Json.EndsNumber r)
    (hspace : Json.skipSpace r = []) :
  Json.plain (prettyAt 0 s.json ++ r) = prettyAt 0 s.json ++ r ∧
    parse source (String.ofList (prettyAt 0 s.json ++ r)) = .ok s
  := by
  have h : ReadsBack typed (prettyAt 0 s.json) s := readsBack_settings s
  have hread : Json.readWhole typed (prettyAt 0 s.json ++ r) = .ok s :=
    (h.reads _ r (h.skipSpace_append r) hr).readWhole hspace
  -- A text from which settings are read is JSON, which the filter leaves as it is.
  obtain ⟨tree, htree⟩ :=
    Json.Grammar.exists_written_of_readWhole Json.Grammar.readsValues_settings hread
  refine ⟨htree.plain_eq, ?_⟩
  simp only [parse, String.toList_ofList, htree.plain_eq, hread]

/-- What the program writes for settings is read as these settings, and the filter for comments and
trailing commas leaves it as it is, with the line feed that ends the output and without it. -/
theorem printed_settings (s : Settings) (source : String) :
  (∀ ending ∈ ["", "\n"],
      Json.plain (s.json.prettyString ++ ending).toList = (s.json.prettyString ++ ending).toList ∧
        parse source (s.json.prettyString ++ ending) = .ok s) ∧
    ∀ (scene : CommandLine.Scene) (host : (q : Host.Question) → q.Answer), scene.settings = s →
      ((CommandLine.Command.settings.run scene).answered host).report.output
        = s.json.prettyString ++ "\n"
  := by
  constructor
  · intro ending hending
    have hr : Json.EndsNumber ending.toList ∧ Json.skipSpace ending.toList = [] := by
      simp only [List.mem_cons, List.not_mem_nil, or_false] at hending
      obtain rfl | rfl := hending
      · exact ⟨fun c t h => absurd h (List.cons_ne_nil c t).symm, rfl⟩
      · exact ⟨Json.endsNumber_cons (by decide) [], rfl⟩
    have hwritten : s.json.prettyString ++ ending
        = String.ofList (prettyAt 0 s.json ++ ending.toList) := by
      rw [Json.prettyString, String.ofList_append, String.ofList_toList]
    rw [hwritten, String.toList_ofList]
    exact parse_written s source hr.1 hr.2
  · rintro scene host rfl
    rfl

/-- A text that looks like comments and like a trailing comma; only its quote is escaped. -/
example :
  (json { unset with logLevel := some "/* //,]\"" }).prettyString
    = "\x7b\n  \"logLevel\": \"/* //,]\\\"\"\n\x7d"
  := by rfl

end MojoToolchain.Settings
