import PutGateway.Linux.Ingress
/-!
# Forged frames between genuine ones

`ingress_security_evaluate` works out the authentication, the integrity
and the replay check of a frame apart from one another, and the replay
check moves the sequence number of the interface whatever the other two
say. A sequence of frames is evaluated here with and without some frames
that were inserted into it.

An inserted frame disturbs nothing as long as it does not move the replay
state, and one that moves it disturbs a frame that may follow
(`undisturbed_iff`). A forged frame can move it.
-/

namespace PutGateway

namespace Linux

/-! ## Frames that move the replay state -/

/-- The frame is outside the policy's time window. -/
def IngressSecurityPolicy.OutOfWindow (policy : IngressSecurityPolicy) (input : IngressSecurityInput)
    (header : AnymsgHeader) : Prop :=
  policy.maxAgeMs ≠ 0 ∧ input.nowMs ≠ 0 ∧
    (input.nowMs < readLe32 header.localTime ∨
      input.nowMs - readLe32 header.localTime > policy.maxAgeMs)

/-- The replay check applies to the frame, and accepts it. -/
structure Advances (policy : IngressSecurityPolicy) (input : IngressSecurityInput) (i : Fin 6)
    (header : AnymsgHeader) : Prop where
  enabled : policy.enabled = true
  required : policy.requireReplayProtection = true
  external : isExternalInterface input.sourceInterface = true
  index : interfaceIndex? input.sourceInterface = some i
  parsed : parseFrameHeader input = .ok header
  inWindow : ¬ policy.OutOfWindow input header
  fresh : policy.Fresh i header

variable {policy : IngressSecurityPolicy} {input : IngressSecurityInput} {header : AnymsgHeader}
  {i : Fin 6}

/-- The replay check, for any clock reading. -/
theorem replayCheckAndUpdate_cases (policy : IngressSecurityPolicy) (input : IngressSecurityInput)
    (header : AnymsgHeader) :
    (∃ i, interfaceIndex? input.sourceInterface = some i ∧ ¬ policy.OutOfWindow input header ∧
      policy.Fresh i header ∧
      replayCheckAndUpdate policy input header = (true, policy.advance i header)) ∨
    ((∀ i, interfaceIndex? input.sourceInterface = some i →
      policy.OutOfWindow input header ∨ ¬ policy.Fresh i header) ∧
      replayCheckAndUpdate policy input header = (false, policy)) := by
  unfold replayCheckAndUpdate
  cases hi : interfaceIndex? input.sourceInterface with
  | none =>
    refine .inr ⟨?_, rfl⟩
    intro i h
    cases h
  | some i =>
    simp only
    split
    · next hwindow =>
      refine .inr ⟨fun j _ => .inl ?_, rfl⟩
      simpa [IngressSecurityPolicy.OutOfWindow, and_assoc] using hwindow
    next hwindow =>
    have hin : ¬ policy.OutOfWindow input header := by
      intro hout
      apply hwindow
      simpa [IngressSecurityPolicy.OutOfWindow, and_assoc] using hout
    split
    · next hseen =>
      rw [Bool.and_eq_true, decide_eq_true_eq] at hseen
      refine .inr ⟨?_, rfl⟩
      intro j hj
      obtain rfl := Option.some.inj hj
      right
      intro hfresh
      exact UInt32.not_lt.mpr hseen.2 (hfresh hseen.1)
    · next hseen =>
      rw [Bool.and_eq_true, decide_eq_true_eq, not_and, UInt32.not_le] at hseen
      exact .inl ⟨i, rfl, hin, hseen, rfl⟩

/-- A frame the replay check does not accept leaves the policy alone. -/
theorem evaluate_of_not_advances (h : ∀ i header, ¬ Advances policy input i header) :
    (ingressSecurityEvaluate policy input).2.2 = policy := by
  unfold ingressSecurityEvaluate
  split
  · rfl
  next henabled =>
  split
  · rfl
  next hexternal =>
  split
  · rfl
  next header hparsed =>
  by_cases hreq : policy.requireReplayProtection = true
  · simp only [if_pos hreq]
    rcases replayCheckAndUpdate_cases policy input header with ⟨i, hi, hwindow, hfresh, -⟩ | ⟨-, heq⟩
    · exact absurd ⟨by simpa using henabled, hreq, by simpa using hexternal, hi, hparsed, hwindow,
        hfresh⟩ (h i header)
    · rw [heq]
  · simp only [if_neg hreq]

/-- **A frame the replay check accepts** moves the sequence number of its
interface. -/
theorem Advances.evaluate (h : Advances policy input i header) :
    ∃ authOk integrityOk controlAllowed, ingressSecurityEvaluate policy input =
      (.ok, earnedFlags authOk integrityOk true controlAllowed, policy.advance i header) := by
  have hreplay : replayCheckAndUpdate policy input header = (true, policy.advance i header) := by
    rcases replayCheckAndUpdate_cases policy input header with ⟨j, hj, -, -, heq⟩ | ⟨hnot, -⟩
    · rw [h.index] at hj
      rw [heq, Option.some.inj hj]
    · exact absurd h.fresh ((hnot i h.index).resolve_left h.inWindow)
  unfold ingressSecurityEvaluate
  rw [if_neg (by simp [h.enabled]), if_neg (by simp [h.external]), h.parsed]
  simp only [if_pos h.required, hreplay]
  exact ⟨_, _, _, rfl⟩

/-- The same frame is a replay right after. -/
theorem Advances.evaluate_again (h : Advances policy input i header) :
    ∃ authOk integrityOk controlAllowed,
      (ingressSecurityEvaluate (policy.advance i header) input).2.1 =
        earnedFlags authOk integrityOk false controlAllowed := by
  have hstale : ¬ (policy.advance i header).Fresh i header := by
    intro hfresh
    have hlt := hfresh (Function.update_self ..)
    simp only [IngressSecurityPolicy.advance, Function.update_self] at hlt
    exact UInt32.lt_irrefl _ hlt
  have hreplay : (replayCheckAndUpdate (policy.advance i header) input header).1 = false := by
    rcases replayCheckAndUpdate_cases (policy.advance i header) input header with
      ⟨j, hj, -, hfresh, -⟩ | ⟨-, heq⟩
    · rw [h.index] at hj
      rw [← Option.some.inj hj] at hfresh
      exact absurd hfresh hstale
    · rw [heq]
  have henabled : (policy.advance i header).enabled = true := h.enabled
  have hrequired : (policy.advance i header).requireReplayProtection = true := h.required
  unfold ingressSecurityEvaluate
  rw [if_neg (by simp [henabled]), if_neg (by simp [h.external]), h.parsed]
  simp only [if_pos hrequired, hreplay]
  exact ⟨_, _, _, rfl⟩

/-- The flags tell whether the replay check accepted a frame. -/
theorem earnedFlags_replay_ne (a b c a' b' c' : Bool) :
    earnedFlags a b true c ≠ earnedFlags a' b' false c' := by
  revert a b c a' b' c'
  decide

/-! ## Sequences of frames -/

/-- A frame that arrives, and whether somebody inserted it. -/
structure Arrival where
  input : IngressSecurityInput
  inserted : Bool

/-- What `ingress_security_evaluate` answers for each frame of a sequence:
its result and the trust flags. -/
def answers (policy : IngressSecurityPolicy) : List IngressSecurityInput → List (UnifiedError × UInt32)
  | [] => []
  | input :: rest =>
    let r := ingressSecurityEvaluate policy input
    (r.1, r.2.1) :: answers r.2.2 rest

/-- What it answers for the frames that were not inserted. -/
def genuineAnswers (policy : IngressSecurityPolicy) : List Arrival → List (UnifiedError × UInt32)
  | [] => []
  | a :: rest =>
    let r := ingressSecurityEvaluate policy a.input
    if a.inserted then genuineAnswers r.2.2 rest else (r.1, r.2.1) :: genuineAnswers r.2.2 rest

/-- The frames that were not inserted. -/
def genuineInputs (arrivals : List Arrival) : List IngressSecurityInput :=
  (arrivals.filter (!·.inserted)).map (·.input)

/-- **The inserted frames leave the answers for the others unchanged.** -/
def Undisturbed (policy : IngressSecurityPolicy) (arrivals : List Arrival) : Prop :=
  genuineAnswers policy arrivals = answers policy (genuineInputs arrivals)

/-- No inserted frame moves the replay state it meets. -/
def NoneAdvances (policy : IngressSecurityPolicy) : List Arrival → Prop
  | [] => True
  | a :: rest =>
    (a.inserted = true → ∀ i header, ¬ Advances policy a.input i header) ∧
      NoneAdvances (ingressSecurityEvaluate policy a.input).2.2 rest

theorem undisturbed_cons_genuine {input : IngressSecurityInput} {rest : List Arrival} :
    Undisturbed policy (⟨input, false⟩ :: rest) ↔
      Undisturbed (ingressSecurityEvaluate policy input).2.2 rest := by
  simp [Undisturbed, genuineAnswers, genuineInputs, answers]

/-- An inserted frame that leaves the policy alone may be left out. -/
theorem undisturbed_cons_inserted {rest : List Arrival}
    (h : (ingressSecurityEvaluate policy input).2.2 = policy) :
    Undisturbed policy (⟨input, true⟩ :: rest) ↔ Undisturbed policy rest := by
  simp [Undisturbed, genuineAnswers, genuineInputs, h]

/-- The same frame, sent again by its rightful sender, tells. -/
theorem Advances.disturbs (h : Advances policy input i header) :
    ¬ Undisturbed policy [⟨input, true⟩, ⟨input, false⟩] := by
  intro hsame
  obtain ⟨a, b, c, hfirst⟩ := h.evaluate
  obtain ⟨a', b', c', hagain⟩ := h.evaluate_again
  have hanswers : answers policy [input] = [(.ok, earnedFlags a b true c)] := by
    simp only [answers, hfirst]
  have hgenuine : genuineAnswers policy [⟨input, true⟩, ⟨input, false⟩] =
      answers (policy.advance i header) [input] := by
    simp [genuineAnswers, answers, hfirst]
  have hflags : (ingressSecurityEvaluate (policy.advance i header) input).2.1 =
      earnedFlags a b true c :=
    congrArg Prod.snd (List.cons.inj (hgenuine.symm.trans (hsame.trans hanswers))).1
  rw [hagain] at hflags
  exact earnedFlags_replay_ne a b c a' b' c' hflags.symm

/-- Frames that nobody inserted leave one another's answers unchanged. -/
theorem undisturbed_genuine (later : List IngressSecurityInput) :
    Undisturbed policy (later.map (⟨·, false⟩)) := by
  induction later generalizing policy with
  | nil => rfl
  | cons input later ih => exact undisturbed_cons_genuine.mpr ih

theorem NoneAdvances.undisturbed {arrivals : List Arrival} (h : NoneAdvances policy arrivals)
    (later : List IngressSecurityInput) :
    Undisturbed policy (arrivals ++ later.map (⟨·, false⟩)) := by
  induction arrivals generalizing policy with
  | nil => exact undisturbed_genuine later
  | cons a rest ih =>
    obtain ⟨ha, hrest⟩ := h
    obtain ⟨input, inserted⟩ := a
    cases inserted with
    | false => exact undisturbed_cons_genuine.mpr (ih hrest)
    | true =>
      have hsame : (ingressSecurityEvaluate policy input).2.2 = policy :=
        evaluate_of_not_advances (ha rfl)
      simp only [hsame] at hrest
      exact (undisturbed_cons_inserted hsame).mpr (ih hrest)

theorem NoneAdvances.of_prefix {before after : List Arrival}
    (h : NoneAdvances policy (before ++ after)) : NoneAdvances policy before := by
  induction before generalizing policy with
  | nil => trivial
  | cons a before ih => exact ⟨h.1, ih h.2⟩

/-- **Inserted frames disturb nothing exactly if none moves the replay
state.** The frames that arrive up to any point, and any frames that their
rightful senders send from there on, are answered as without the inserted
ones, exactly if each inserted frame is one that the replay check does not
accept where it arrives. -/
theorem undisturbed_iff (policy : IngressSecurityPolicy) (arrivals : List Arrival) :
    (∀ before after, arrivals = before ++ after → ∀ later : List IngressSecurityInput,
      Undisturbed policy (before ++ later.map (⟨·, false⟩))) ↔ NoneAdvances policy arrivals := by
  constructor
  · intro h
    induction arrivals generalizing policy with
    | nil => trivial
    | cons a rest ih =>
      obtain ⟨input, inserted⟩ := a
      cases inserted with
      | false =>
        refine ⟨fun hins => absurd hins Bool.false_ne_true, ih _ ?_⟩
        intro before after heq later
        have hfull := h (⟨input, false⟩ :: before) after (by rw [heq, List.cons_append]) later
        exact undisturbed_cons_genuine.mp hfull
      | true =>
        -- a genuine copy of the frame would be answered otherwise
        have hnot : ∀ i header, ¬ Advances policy input i header := by
          intro i header hadv
          exact hadv.disturbs (h [⟨input, true⟩] rest rfl [input])
        have hsame := evaluate_of_not_advances hnot
        refine ⟨fun _ => hnot, ?_⟩
        simp only [hsame]
        apply ih
        intro before after heq later
        have hfull := h (⟨input, true⟩ :: before) after (by rw [heq, List.cons_append]) later
        exact (undisturbed_cons_inserted hsame).mp hfull
  · intro h before after heq later
    rw [heq] at h
    exact h.of_prefix.undisturbed later

/-! ## A forged frame that disturbs a genuine one -/

/-- The frame does not earn both of its credentials' flags. -/
def Forged (policy : IngressSecurityPolicy) (input : IngressSecurityInput) : Prop :=
  (ingressSecurityEvaluate policy input).2.1 &&& (descriptorFlagAuthOk ||| descriptorFlagIntegrityOk) ≠
    descriptorFlagAuthOk ||| descriptorFlagIntegrityOk

instance (policy : IngressSecurityPolicy) (input : IngressSecurityInput) :
    Decidable (Forged policy input) := inferInstanceAs (Decidable (_ ≠ _))

/-- A policy that asks for everything, with one-byte credentials. -/
def demandingPolicy : IngressSecurityPolicy where
  enabled := true
  requireAuthentication := true
  requireIntegrity := true
  requireReplayProtection := true
  authToken := ⟨fun _ => 1, 1, Credential.one_le⟩
  integrityTag := ⟨fun _ => 2, 1, Credential.one_le⟩

/-- A Wi-Fi frame to Ethernet with a sequence number, its four bytes
alike, with or without the credentials. -/
def wifiInput (sequenceByte : UInt8) (credentials : Bool) : IngressSecurityInput where
  sourceInterface := putShmInterfaceWifi
  frame
    | 0 => 40
    | 8 => 0x40
    | 12 => 0x60
    | 16 | 17 | 18 | 19 => sequenceByte
    | 20 => if credentials then 1 else 0
    | 28 => if credentials then 2 else 0
    | _ => 0
  frameLength := 40
  nowMs := 0

/-- **A frame without credentials and of the largest sequence number**
makes the genuine frame after it a replay. -/
theorem forged_frame_disturbs :
    ¬ ∀ (policy : IngressSecurityPolicy) (arrivals : List Arrival), policy.enabled = true →
      policy.requireAuthentication = true → policy.requireIntegrity = true →
      policy.requireReplayProtection = true →
      (∀ a ∈ arrivals, a.inserted = true → Forged policy a.input) → Undisturbed policy arrivals := by
  intro h
  have hsame := h demandingPolicy [⟨wifiInput 0xFF false, true⟩, ⟨wifiInput 1 true, false⟩]
    rfl rfl rfl rfl (by decide +kernel)
  exact absurd hsame (by unfold Undisturbed; decide +kernel)

end Linux

end PutGateway
