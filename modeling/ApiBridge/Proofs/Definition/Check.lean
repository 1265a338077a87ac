import ApiBridge.Definition.Check
import ApiBridge.Proofs.Outcome

namespace ApiBridge

namespace EventStream

/-- What settings say about chunks, the buffer and the policy. -/
def Settings.consumption (settings : Settings) : Settings :=
  { Settings.empty with
    chunkSize := settings.chunkSize
    bufferSize := settings.bufferSize
    dropPolicy := settings.dropPolicy }

theorem ConsumeLimits.exists_of_iff {chunkSize capacity : Nat} {policy : DropPolicy} :
    (∃ limits, ConsumeLimits.of chunkSize capacity policy = .ok limits) ↔
      0 < chunkSize ∧ 0 < capacity := by
  unfold ConsumeLimits.of
  split
  · next hchunk =>
      split
      · next hcapacity => simp [hchunk, hcapacity]
      · next hcapacity => simp [hcapacity]
  · next hchunk => simp [hchunk]

theorem ConsumeRequest.exists_resolve_iff (settings : Settings) :
    (∃ limits, ConsumeRequest.empty.resolve settings = .ok limits) ↔
      settings.chunkSize ≠ some 0 ∧ settings.bufferSize ≠ some 0 ∧
        ∀ text, settings.dropPolicy = some text → ∃ policy, DropPolicy.parse text = .ok policy := by
  have hsize : ∀ (size : Option Nat) (default : Nat), 0 < default →
      (0 < size.getD default ↔ size ≠ some 0) := by
    intro size default hdefault
    cases size with
    | none => simpa using hdefault
    | some size => simp [Nat.pos_iff_ne_zero]
  have hlimits := @ConsumeLimits.exists_of_iff (settings.chunkSize.getD 50)
    (settings.bufferSize.getD 500)
  rw [hsize _ 50 (by decide), hsize _ 500 (by decide)] at hlimits
  cases hpolicy : settings.dropPolicy with
  | none =>
      unfold resolve
      rw [hpolicy]
      change (∃ limits, ConsumeLimits.of (settings.chunkSize.getD 50)
        (settings.bufferSize.getD 500) .block = .ok limits) ↔ _
      rw [hlimits]
      simp
  | some text =>
      unfold resolve
      rw [hpolicy]
      change (∃ limits, (DropPolicy.parse text >>= fun policy =>
        ConsumeLimits.of (settings.chunkSize.getD 50) (settings.bufferSize.getD 500) policy) =
          .ok limits) ↔ _
      simp only [Fault.bind_eq_ok, Option.some.injEq, forall_eq']
      constructor
      · rintro ⟨limits, policy, hparse, hof⟩
        obtain ⟨hchunk, hbuffer⟩ := hlimits.1 ⟨limits, hof⟩
        exact ⟨hchunk, hbuffer, policy, hparse⟩
      · rintro ⟨hchunk, hbuffer, policy, hparse⟩
        obtain ⟨limits, hof⟩ := hlimits.2 ⟨hchunk, hbuffer⟩
        exact ⟨limits, policy, hparse, hof⟩

end EventStream

namespace Definition

open EventStream

variable {name : String}

theorem ofEndpoint_eq_ok {α : Type} {result : Except Error α} :
    ofEndpoint name result = .ok () ↔ ∃ value, result = .ok value := by
  cases result <;> simp [ofEndpoint]

theorem checkStream_eq_ok {settings : Settings} :
    checkStream name settings = .ok () ↔
      settings.chunkSize ≠ some 0 ∧ settings.bufferSize ≠ some 0 ∧
        (∀ text, settings.dropPolicy = some text → ∃ policy, DropPolicy.parse text = .ok policy) ∧
        (∀ seconds, settings.reconnectDelay = some seconds →
          checkSeconds (name ++ ".sse.reconnect_delay") seconds false = .ok ()) ∧
        ∀ seconds, settings.readTimeout = some seconds →
          checkSeconds (name ++ ".sse.read_timeout") seconds true = .ok () := by
  unfold checkStream
  rw [Fault.guard_bind_eq_ok, Fault.guard_bind_eq_ok]
  cases settings.dropPolicy <;> cases settings.reconnectDelay <;> cases settings.readTimeout <;>
    simp [Fault.then_eq_ok, ofEndpoint_eq_ok, pure, Except.pure]

theorem checkStream_consumption_iff (name : String) (settings : Settings) :
    checkStream name settings.consumption = .ok () ↔
      ∃ limits, ConsumeRequest.empty.resolve settings = .ok limits := by
  rw [checkStream_eq_ok, ConsumeRequest.exists_resolve_iff]
  simp [Settings.consumption, Settings.empty]

theorem checkStream_consumption {settings : Settings} (hcheck : checkStream name settings = .ok ()) :
    checkStream name settings.consumption = .ok () := by
  obtain ⟨hchunk, hbuffer, hpolicy, -⟩ := checkStream_eq_ok.1 hcheck
  exact checkStream_eq_ok.2 ⟨hchunk, hbuffer, hpolicy, by simp [Settings.consumption, Settings.empty],
    by simp [Settings.consumption, Settings.empty]⟩

theorem checkEndpoint_eq_ok {endpoint : Endpoint} :
    checkEndpoint name endpoint = .ok () ↔
      Text.isAllBlank endpoint.path = false ∧
        (∀ spec, endpoint.rateLimit = some spec → spec.validate = .ok ()) ∧
        (endpoint.pagination.any fun spec => spec.pageParam.isEmpty) = false ∧
        ∀ settings, endpoint.stream = some settings → checkStream name settings = .ok () := by
  unfold checkEndpoint
  rw [Fault.guard_bind_eq_ok]
  cases endpoint.rateLimit <;> cases endpoint.stream <;>
    simp [Fault.then_eq_ok, Fault.guard_bind_eq_ok, ofEndpoint_eq_ok, Fault.exists_eq_ok, pure,
      Except.pure]

theorem check_eq_ok {definition : Definition} :
    definition.check = .ok () ↔
      Text.isAllBlank definition.baseUrl = false ∧ definition.endpoints ≠ [] ∧
        checkSeconds "timeout" definition.timeoutSeconds true = .ok () ∧
        checkSeconds "retry_delay" definition.retryDelaySeconds false = .ok () ∧
        ∀ binding ∈ definition.endpoints, checkEndpoint binding.1 binding.2 = .ok () := by
  unfold check
  simp only [Fault.guard_bind_eq_ok, Fault.then_eq_ok, Fault.forM_eq_ok, List.isEmpty_iff,
    Bool.not_eq_true, ne_eq]

end Definition

end ApiBridge
