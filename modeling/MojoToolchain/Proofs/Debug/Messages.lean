import MojoToolchain.Proofs.Debug.Provider

/-!
# What a provider tells

The user is told of failed searches by the resolver, once in an epoch, and of refused requests by
the provider, once for each of them (`Provider.Accounted`).  What was told is not taken back, and
when one request is made after the other, the user is told of those that are refused in their order.
-/

namespace MojoToolchain

namespace Debug

open Host (Question)
open Resolver (History)

/-! ### Accounts -/

/-- What the resolver has told, and the epoch of it. -/
def Message.search? : Message → Option (Nat × String)
  | .search epoch text => some (epoch, text)
  | .refusal _ _ => none

/-- What a request was refused with. -/
def Message.refusal? : Message → Option (Nat × String)
  | .search _ _ => none
  | .refusal n text => some (n, text)

/-- The refusal of a request is nothing that the resolver has told. -/
@[simp]
theorem Message.filterMap_search?_refusal (n : Nat) (texts : List String) :
  (texts.map (refusal n)).filterMap search? = []
  := by
  simp [List.filterMap_map, Function.comp_def, search?]

@[simp]
theorem Message.filterMap_refusal?_refusal (n : Nat) (texts : List String) :
  (texts.map (refusal n)).filterMap refusal? = texts.map fun text => (n, text)
  := by
  simp [List.filterMap_map, Function.comp_def, refusal?]

namespace Provider

/-- What the user was told of a request. -/
def refusalsOf (k : Provider) (n : Nat) : List String :=
  ((k.messages.filterMap Message.refusal?).filter fun m => m.1 == n).map Prod.snd

/-- The user was told what the resolver has told, and once of every request that was refused. -/
structure Accounted (k : Provider) : Prop where
  history : ∃ steps, k.history = History.after steps
  searches : k.messages.filterMap Message.search?
    = k.history.notices.filterMap Resolver.Notice.message?
  refusals : ∀ n, k.refusalsOf n
    = ((k.inquiries[n]?).bind Inquiry.error?).toList.map DebugError.message
  inquiries : ∀ {n : Nat} {i : Inquiry}, k.inquiries[n]? = some i → i.Explained k.history

/-- The resolver tells of no request. -/
theorem refusals_resolver (options : NormalizerOptions) (k : Provider) (s : Resolver.Step) :
  (k.step options (.resolver s)).messages.filterMap Message.refusal?
    = k.messages.filterMap Message.refusal?
  := by
  rw [step, List.filterMap_append]
  cases k.history.shownBy s with
  | none => exact List.append_nil _
  | some text => exact List.append_nil _

/-- The user is told something of a request. -/
theorem refusalsOf_append (k : Provider) (inquiries : Array Inquiry) (n m : Nat)
    (texts : List String) :
  refusalsOf { k with inquiries, messages := k.messages ++ texts.map (.refusal n) } m
    = k.refusalsOf m ++ if m = n then texts else []
  := by
  rw [refusalsOf, List.filterMap_append, Message.filterMap_refusal?_refusal, List.filter_append,
    List.map_append, ← refusalsOf]
  by_cases h : m = n
  · subst h
    simp [List.filter_map, Function.comp_def]
  · have hne : (n == m) = false := by simpa using Ne.symm h
    simp [List.filter_map, Function.comp_def, h, hne]

namespace Accounted

variable {k : Provider}

/-- A step of the resolver. -/
theorem resolver (ha : k.Accounted) (options : NormalizerOptions) (s : Resolver.Step) :
  (k.step options (.resolver s)).Accounted
  := by
  obtain ⟨steps, hsteps⟩ := ha.history
  constructor
  · use steps ++ [s]
    rw [History.after_concat, ← hsteps]
    rfl
  · rw [step, k.history.messages_step s, List.filterMap_append, ha.searches]
    cases k.history.shownBy s with
    | none => rfl
    | some text => rfl
  · intro n
    rw [refusalsOf, refusals_resolver]
    exact ha.refusals n
  · intro n i hi
    exact (ha.inquiries hi).step s

/-- A request goes on. -/
theorem go (ha : k.Accounted) {options : NormalizerOptions} {n : Nat} {i : Inquiry}
    (hn : k.inquiries[n]? = some i) {progress : Inquiry.Progress} {texts : List String}
    (hi : i.Proceeds options k.history progress texts) :
  (k.go n progress texts).Accounted
  := by
  constructor
  · exact ha.history
  · rw [Provider.go, List.filterMap_append, Message.filterMap_search?_refusal, List.append_nil]
    exact ha.searches
  · intro m
    rw [inquiries_go, Provider.go, refusalsOf_append, ha.refusals]
    by_cases hm : n = m
    · subst hm
      simp [hn, Inquiry.error?_of_not_hasEnded hi.hasEnded, ← hi.texts_eq]
    · simp [hm, Ne.symm hm]
  · intro m i' hi'
    rw [inquiries_go] at hi'
    split at hi'
    · next hm =>
      subst hm
      rw [hn] at hi'
      obtain rfl := Option.some.inj hi'
      exact hi.explained (ha.inquiries hn)
    · exact ha.inquiries hi'

/-- A request is added. -/
theorem push (ha : k.Accounted) {i : Inquiry} {texts : List String} (hi : i.Explained k.history)
    (htexts : texts = i.error?.toList.map DebugError.message) :
  Accounted
    { k with
      inquiries := k.inquiries.push i
      messages := k.messages ++ texts.map (.refusal k.inquiries.size) }
  := by
  constructor
  · exact ha.history
  · rw [List.filterMap_append, Message.filterMap_search?_refusal, List.append_nil]
    exact ha.searches
  · intro n
    rw [refusalsOf_append, ha.refusals, Array.getElem?_push]
    by_cases hn : n = k.inquiries.size
    · subst hn
      simp [htexts]
    · simp [hn]
  · intro n i' hi'
    dsimp only at hi'
    rw [Array.getElem?_push] at hi'
    split at hi'
    · obtain rfl := Option.some.inj hi'
      exact hi
    · exact ha.inquiries hi'

/-- A request is made. -/
theorem ask (ha : k.Accounted) (options : NormalizerOptions) (target : Target) (c : Configuration)
    (installed : String → Bool) :
  (k.step options (.ask target c installed)).Accounted
  := by
  rcases k.ask_cases options target c installed with ⟨e, hcheck, hstep⟩ | hstep
  · obtain ⟨rfl, -, rfl⟩ := Target.check_eq_error_iff.mp hcheck
    rw [hstep]
    exact ha.push (i := ⟨.companion, c, none, .ended (.refused noCompanion)⟩) ⟨rfl, rfl⟩ rfl
  · have hentered := ha.resolver options .enter
    have hpushed := hentered.push (i := ⟨target, c, some k.history.calls.size, .finding⟩) trivial
      rfl
    rw [hstep]
    simpa [step, History.shownBy, Inquiry.error?] using hpushed

end Accounted

theorem accounted_after (options : NormalizerOptions) (steps : List Step) :
  (after options steps).Accounted
  := by
  induction steps using List.reverseRecOn with
  | nil =>
    constructor
    · exact ⟨[], rfl⟩
    · rfl
    · intro n
      rfl
    · intro n i hi
      simp [after] at hi
  | append_singleton steps s ih =>
    rw [after_concat]
    cases s with
    | resolver s => exact ih.resolver options s
    | ask target c installed => exact ih.ask options target c installed
    | goOn n known answer =>
      rcases (after options steps).goOn_cases options n known answer with
        hs | ⟨i, progress, texts, hn, hi, hs⟩
      · rwa [hs]
      · rw [hs]
        exact ih.go hn hi

/-! ### What stays -/

/-- What every step keeps holds of all providers that go on from there. -/
theorem kept_after {options : NormalizerOptions} {P : Provider → Prop}
    (hstep : ∀ {k : Provider} (s : Step), P k → P (k.step options s)) {earlier steps : List Step}
    (hpart : earlier <+: steps) (h : P (after options earlier)) :
  P (after options steps)
  := by
  obtain ⟨later, rfl⟩ := hpart
  induction later using List.reverseRecOn with
  | nil => rwa [List.append_nil]
  | append_singleton later s ih =>
    rw [← List.append_assoc, after_concat]
    exact hstep s ih

/-- Nothing is taken back that the user was told. -/
theorem messages_prefix_step (options : NormalizerOptions) (k : Provider) (s : Step) :
  k.messages <+: (k.step options s).messages
  := by
  cases s with
  | resolver s => exact List.prefix_append ..
  | ask target c installed =>
    rcases k.ask_cases options target c installed with ⟨e, -, hs⟩ | hs
    · rw [hs]
      exact List.prefix_append ..
    · refine ⟨[], ?_⟩
      rw [hs]
      exact List.append_nil _
  | goOn n known answer =>
    rcases k.goOn_cases options n known answer with hs | ⟨i, progress, texts, -, -, hs⟩
    · refine ⟨[], ?_⟩
      rw [hs]
      exact List.append_nil _
    · rw [hs]
      exact List.prefix_append ..

/-- A request that has ended stays as it is. -/
theorem ended_step {options : NormalizerOptions} {k : Provider} {n : Nat} {i : Inquiry} (s : Step)
    (hn : k.inquiries[n]? = some i) (hi : i.hasEnded = true) :
  (k.step options s).inquiries[n]? = some i
  := by
  have hpush (i' : Inquiry) : (k.inquiries.push i')[n]? = some i := by
    rw [Array.getElem?_push, if_neg]
    · exact hn
    · exact Nat.ne_of_lt (Array.getElem?_eq_some_iff.mp hn).1
  cases s with
  | resolver s => exact hn
  | ask target c installed =>
    rcases k.ask_cases options target c installed with ⟨e, -, hs⟩ | hs
    · rw [hs]
      exact hpush _
    · rw [hs]
      exact hpush _
  | goOn m known answer =>
    rcases k.goOn_cases options m known answer with hs | ⟨i', progress, texts, hm, hi', hs⟩
    · rwa [hs]
    · have hne : m ≠ n := by
        rintro rfl
        cases hm.symm.trans hn
        rw [hi'.hasEnded] at hi
        cases hi
      rw [hs, inquiries_go, if_neg hne]
      exact hn

/-! ### One request after the other -/

/-- Each request is made when all before it have ended. -/
def Sequential (options : NormalizerOptions) (steps : List Step) : Prop :=
  ∀ earlier target c installed, earlier ++ [.ask target c installed] <+: steps →
    ∀ i ∈ (after options earlier).inquiries, i.hasEnded = true

theorem Sequential.nil {options : NormalizerOptions} :
  Sequential options []
  := by
  intro earlier target c installed hpart
  simp at hpart

theorem Sequential.concat {options : NormalizerOptions} {steps : List Step}
    (hs : Sequential options steps) (s : Step)
    (hended : ∀ i ∈ (after options steps).inquiries, i.hasEnded = true) :
  Sequential options (steps ++ [s])
  := by
  intro earlier target c installed hpart
  rcases List.prefix_concat_iff.mp hpart with heq | hpart
  · obtain ⟨rfl, -⟩ := List.append_inj' heq rfl
    exact hended
  · exact hs earlier target c installed hpart

theorem Sequential.of_concat {options : NormalizerOptions} {steps : List Step} {s : Step}
    (hs : Sequential options (steps ++ [s])) :
  Sequential options steps
  := fun earlier target c installed hpart =>
    hs earlier target c installed (hpart.trans (List.prefix_append steps [s]))

/-- Only the last request may be under way. -/
theorem last_of_not_hasEnded {options : NormalizerOptions} {steps : List Step}
    (hs : Sequential options steps) {n : Nat} {i : Inquiry}
    (hn : (after options steps).inquiries[n]? = some i) (hi : i.hasEnded = false) :
  n + 1 = (after options steps).inquiries.size
  := by
  induction steps using List.reverseRecOn generalizing i with
  | nil => simp [after] at hn
  | append_singleton steps s ih =>
    rw [after_concat] at hn ⊢
    cases s with
    | resolver s => exact ih hs.of_concat hn hi
    | ask target c installed =>
      have hended := hs steps target c installed List.prefix_rfl
      have hpush (i' : Inquiry) (hn : ((after options steps).inquiries.push i')[n]? = some i) :
          n + 1 = ((after options steps).inquiries.push i').size := by
        rw [Array.getElem?_push] at hn
        split at hn
        · next hsize => rw [hsize, Array.size_push]
        · have htrue := hended i (Array.mem_of_getElem? hn)
          rw [hi] at htrue
          cases htrue
      rcases (after options steps).ask_cases options target c installed with ⟨e, -, hstep⟩ | hstep
      · rw [hstep] at hn ⊢
        exact hpush _ hn
      · rw [hstep] at hn ⊢
        exact hpush _ hn
    | goOn m known answer =>
      rcases (after options steps).goOn_cases options m known answer with
        hstep | ⟨i', progress, texts, hm, hi', hstep⟩
      · rw [hstep] at hn ⊢
        exact ih hs.of_concat hn hi
      · rw [hstep, inquiries_go] at hn
        rw [hstep, go, Array.size_modify]
        split at hn
        · next hmn =>
          subst hmn
          exact ih hs.of_concat hm hi'.hasEnded
        · exact ih hs.of_concat hn hi

/-- The user is told only of requests that were refused. -/
theorem Accounted.exists_of_refusal {k : Provider} (ha : k.Accounted) {m : Nat × String}
    (hm : m ∈ k.messages.filterMap Message.refusal?) :
  ∃ i, k.inquiries[m.1]? = some i ∧ i.error? ≠ none
  := by
  have hmem : m.2 ∈ k.refusalsOf m.1 :=
    List.mem_map_of_mem (List.mem_filter.mpr ⟨hm, by simp⟩)
  rw [ha.refusals] at hmem
  cases hi : k.inquiries[m.1]? with
  | none => simp [hi] at hmem
  | some i =>
    refine ⟨i, rfl, ?_⟩
    intro hnone
    simp [hi, hnone] at hmem

/-- When one request is made after the other, the user is told of those that are refused in their
order. -/
theorem pairwise_refusals {options : NormalizerOptions} {steps : List Step}
    (hs : Sequential options steps) :
  ((after options steps).messages.filterMap Message.refusal?).Pairwise fun a b => a.1 < b.1
  := by
  induction steps using List.reverseRecOn with
  | nil => exact .nil
  | append_singleton steps s ih =>
    have hbefore := ih hs.of_concat
    have ha := accounted_after options steps
    rw [after_concat]
    cases s with
    | resolver s =>
      rw [refusals_resolver]
      exact hbefore
    | ask target c installed =>
      rcases (after options steps).ask_cases options target c installed with ⟨e, -, hstep⟩ | hstep
      · rw [hstep, List.filterMap_append]
        refine List.pairwise_append.mpr ⟨hbefore, List.pairwise_singleton _ _, ?_⟩
        intro m hm new hnew
        obtain rfl := List.mem_singleton.mp hnew
        obtain ⟨i, hi, -⟩ := ha.exists_of_refusal hm
        exact (Array.getElem?_eq_some_iff.mp hi).1
      · rw [hstep]
        exact hbefore
    | goOn n known answer =>
      rcases (after options steps).goOn_cases options n known answer with
        hstep | ⟨i, progress, texts, hn, hi, hstep⟩
      · rw [hstep]
        exact hbefore
      · have hlast := last_of_not_hasEnded hs.of_concat hn hi.hasEnded
        rw [hstep, go, List.filterMap_append, Message.filterMap_refusal?_refusal]
        refine List.pairwise_append.mpr ⟨hbefore, ?_, ?_⟩
        · rw [hi.texts_eq]
          cases Inquiry.error? { i with progress := progress } with
          | none => exact .nil
          | some e => exact List.pairwise_singleton _ _
        · intro m hm new hnew
          obtain ⟨text, -, rfl⟩ := List.mem_map.mp hnew
          obtain ⟨i', hi', herror⟩ := ha.exists_of_refusal hm
          have hne : m.1 ≠ n := by
            rintro rfl
            cases hn.symm.trans hi'
            exact herror (Inquiry.error?_of_not_hasEnded hi.hasEnded)
          have hlt := (Array.getElem?_eq_some_iff.mp hi').1
          dsimp only
          omega

/-- How a request has ended is settled by the result of its call of the resolver, if it has made
one. -/
theorem Accounted.ended_cases {k : Provider} (ha : k.Accounted) {n : Nat} {i : Inquiry}
    {o : Outcome Reply} (hn : k.inquiries[n]? = some i) (ho : i.progress = .ended o) :
  i.call = none ∧ i.target = .companion ∧ o = .refused noCompanion
    ∨ ∃ call epoch result, i.call = some call
      ∧ k.history.calls[call]? = some ⟨epoch, .returned result⟩
      ∧ (result = none → o = .withoutSdk ∧ k.refusalsOf n = [])
      ∧ ∀ d, result = some d → o ≠ .withoutSdk ∧ ∀ e, o = .refused e ↔ i.Refused d.sdk e
  := by
  have hi := ha.inquiries hn
  obtain ⟨target, c, call, progress⟩ := i
  obtain rfl : progress = .ended o := ho
  cases call with
  | none =>
    obtain ⟨htarget, ho⟩ := hi
    exact .inl ⟨rfl, htarget, Inquiry.Progress.ended.inj ho⟩
  | some call =>
    right
    obtain ⟨epoch, result, hcall, hends⟩ := hi
    refine ⟨call, epoch, result, rfl, hcall, ?_, ?_⟩
    · rintro rfl
      obtain rfl : o = .withoutSdk := hends
      refine ⟨rfl, ?_⟩
      rw [ha.refusals, hn]
      rfl
    · rintro d rfl
      exact hends

/-- A request for the companion debugger that is not installed is refused at once, and for good. -/
theorem refused_at_once {options : NormalizerOptions} {earlier steps : List Step}
    {c : Configuration} {installed : String → Bool}
    (hpart : earlier ++ [.ask .companion c installed] <+: steps)
    (hmissing : installed CompanionConfiguration.extension = false) :
  (after options (earlier ++ [.ask .companion c installed])).history
      = (after options earlier).history
    ∧ (after options (earlier ++ [.ask .companion c installed])).messages
      = (after options earlier).messages
        ++ [.refusal (after options earlier).inquiries.size noCompanion.message]
    ∧ (after options steps).inquiries[(after options earlier).inquiries.size]?
      = some ⟨.companion, c, none, .ended (.refused noCompanion)⟩
  := by
  have hcheck : Target.companion.check installed = .error noCompanion :=
    Target.check_eq_error_iff.mpr ⟨rfl, hmissing, rfl⟩
  have hstep : after options (earlier ++ [.ask .companion c installed])
      = { after options earlier with
          inquiries := (after options earlier).inquiries.push
            ⟨.companion, c, none, .ended (.refused noCompanion)⟩
          messages := (after options earlier).messages
            ++ [.refusal (after options earlier).inquiries.size noCompanion.message] } := by
    simp only [after_concat, step, hcheck]
  refine ⟨by rw [hstep], by rw [hstep], ?_⟩
  apply kept_after (P := fun k => k.inquiries[(after options earlier).inquiries.size]?
    = some ⟨.companion, c, none, .ended (.refused noCompanion)⟩) _ hpart
  · rw [hstep]
    exact Array.getElem?_push_size
  · exact fun s h => ended_step s h rfl

/-- In every run of a provider, the user is told what the resolver tells, in its order, which is
one message at most in an epoch; and of a request exactly the text of the error, if it was
refused.  Nothing is taken back, and when one request is made after the other, the user is told of
those that are refused in their order.  A request that has ended goes by the result of its call of
the resolver: without an SDK it has nothing, and nothing is told of it; with one it is refused
exactly when the configuration is of no use with it.  A request for the companion debugger that is
not installed is refused at once, without a call of the resolver. -/
theorem messages_of_requests (options : NormalizerOptions) (steps : List Step) :
  (after options steps).messages.filterMap Message.search?
      = (after options steps).history.notices.filterMap Resolver.Notice.message?
    ∧ (∀ epoch, (((after options steps).messages.filterMap Message.search?).filter fun m =>
      m.1 == epoch).length ≤ 1)
    ∧ (∀ n, (after options steps).refusalsOf n
      = (((after options steps).inquiries[n]?).bind Inquiry.error?).toList.map DebugError.message)
    ∧ (∀ earlier, earlier <+: steps →
      (after options earlier).messages <+: (after options steps).messages)
    ∧ (Sequential options steps →
      ((after options steps).messages.filterMap Message.refusal?).Pairwise fun a b => a.1 < b.1)
    ∧ (∀ (n : Nat) i o, (after options steps).inquiries[n]? = some i → i.progress = .ended o →
      i.call = none ∧ i.target = .companion ∧ o = .refused noCompanion
        ∨ ∃ call epoch result, i.call = some call
          ∧ (after options steps).history.calls[call]? = some ⟨epoch, .returned result⟩
          ∧ (result = none → o = .withoutSdk ∧ (after options steps).refusalsOf n = [])
          ∧ ∀ d, result = some d → o ≠ .withoutSdk ∧ ∀ e, o = .refused e ↔ i.Refused d.sdk e)
    ∧ ∀ earlier c installed, earlier ++ [.ask .companion c installed] <+: steps →
      installed CompanionConfiguration.extension = false →
      (after options (earlier ++ [.ask .companion c installed])).history
          = (after options earlier).history
        ∧ (after options (earlier ++ [.ask .companion c installed])).messages
          = (after options earlier).messages
            ++ [.refusal (after options earlier).inquiries.size noCompanion.message]
        ∧ (after options steps).inquiries[(after options earlier).inquiries.size]?
          = some ⟨.companion, c, none, .ended (.refused noCompanion)⟩
  := by
  have ha := accounted_after options steps
  refine ⟨ha.searches, ?_, ha.refusals, ?_, pairwise_refusals, ?_, ?_⟩
  · intro epoch
    obtain ⟨resolverSteps, hhistory⟩ := ha.history
    rw [ha.searches, hhistory]
    exact History.length_messages_le resolverSteps epoch
  · intro earlier hpart
    exact kept_after (P := fun k => (after options earlier).messages <+: k.messages)
      (fun s h => h.trans (messages_prefix_step options _ s)) hpart List.prefix_rfl
  · intro n i o hn ho
    exact ha.ended_cases hn ho
  · intro earlier c installed hpart hmissing
    exact refused_at_once hpart hmissing

/-- The steps with which a request is served whose call waits for a probe. -/
def serve (n probe : Nat) (work : List Resolver.Step) : List Step :=
  (work ++ [Resolver.Step.leave probe]).map Step.resolver
    ++ List.replicate 2 (.goOn n none (History.plainHost none true))

/-- A request to run a file. -/
def runRequest (target : Target) : Step :=
  .ask target
    { Configuration.unset with request := some .launch, mojoFile := some "/w/main.mojo" }
    fun _ => false

/-- A request for the companion debugger, which is not installed; two that find no environment; one
that finds an SDK which cannot run a file, and another one after it. -/
def fiveRequests : List Step :=
  [runRequest .companion, runRequest .own] ++ serve 1 0 (History.vainSearch 0)
    ++ [runRequest .own] ++ serve 2 1 (History.vainSearch 1)
    ++ [runRequest .own] ++ serve 3 2 (History.search 2)
    ++ [runRequest .own] ++ serve 4 3 []

/-- Of the two searches that fail the first one is told of; of the refused requests each one is, the
last although it is refused like the one before it. -/
theorem messages_of_requests_fiveRequests :
  (after ⟨true, 300, true⟩ fiveRequests).messages
      = [.refusal 0 noCompanion.message, .search 0 SdkError.environmentUnavailable.userMessage,
        .refusal 3 (DebugError.fileLaunchUnsupported "/w/main.mojo").message,
        .refusal 4 (DebugError.fileLaunchUnsupported "/w/main.mojo").message]
    ∧ (∃ i, (after ⟨true, 300, true⟩ fiveRequests).inquiries[2]? = some i
      ∧ i.progress = .ended .withoutSdk ∧ (after ⟨true, 300, true⟩ fiveRequests).refusalsOf 2 = [])
    ∧ (after ⟨true, 300, true⟩ [runRequest .companion]).history = History.fresh
    ∧ ((after ⟨true, 300, true⟩ [runRequest .companion, runRequest .companion]).messages.filterMap
      Message.refusal?).Pairwise fun a b => a.1 < b.1
  := by
  obtain ⟨-, -, -, -, -, hends, hcompanion⟩ := messages_of_requests ⟨true, 300, true⟩ fiveRequests
  obtain ⟨-, -, -, -, hordered, -⟩ :=
    messages_of_requests ⟨true, 300, true⟩ [runRequest .companion, runRequest .companion]
  refine ⟨by decide +kernel, ?_, ?_, ?_⟩
  · have hended : ((after ⟨true, 300, true⟩ fiveRequests).inquiries[2]?).any Inquiry.hasEnded
        = true := by
      decide +kernel
    have hcall : ((after ⟨true, 300, true⟩ fiveRequests).inquiries[2]?).bind Inquiry.call
        = some 1 := by
      decide +kernel
    have hreturned : (after ⟨true, 300, true⟩ fiveRequests).history.calls[1]?
        = some ⟨0, .returned none⟩ := by
      decide +kernel
    obtain ⟨i, hn, hi⟩ := (Option.any_eq_true ..).mp hended
    obtain ⟨o, ho⟩ := Inquiry.exists_of_hasEnded hi
    rw [hn, Option.bind_some] at hcall
    rcases hends 2 i o hn ho with ⟨hnone, -⟩ | ⟨call, epoch, result, hcall', hresult, hnone, -⟩
    · cases hcall.symm.trans hnone
    · cases hcall.symm.trans hcall'
      cases hreturned.symm.trans hresult
      obtain ⟨rfl, hrefusals⟩ := hnone rfl
      exact ⟨i, hn, ho, hrefusals⟩
  · exact (hcompanion [] _ (fun _ => false) ⟨_, rfl⟩ rfl).1
  · apply hordered
    have hnone : ∀ i ∈ (after ⟨true, 300, true⟩ []).inquiries, i.hasEnded = true := by
      simp [after]
    have hone : ∀ i ∈ (after ⟨true, 300, true⟩ [runRequest .companion]).inquiries,
        i.hasEnded = true := by
      have hall : (after ⟨true, 300, true⟩ [runRequest .companion]).inquiries.all
          Inquiry.hasEnded = true := by
        decide +kernel
      exact Array.all_eq_true'.mp hall
    exact (Sequential.nil.concat (runRequest .companion) hnone).concat (runRequest .companion) hone

end Provider

end Debug

end MojoToolchain
