import AsyncLog.Output.Sink
/-!
# Calls on an honest output

An honest output takes the front of what it is offered and says how much, or it
fails and takes nothing.
-/

namespace AsyncLog

inductive HonestWrite (offered : List UInt8) : Reply { n : Nat // 0 < n } -> List UInt8 -> Prop where
  | took (n : { n : Nat // 0 < n }) : HonestWrite offered (.ok n) (offered.take n.val)
  | failed (error : IoError) : HonestWrite offered (.error error) []

theorem honestWrite_replyTo {offered : List UInt8} {response : WriteResponse}
    (hoffered : offered ≠ []) (hhonest : response.isHonest = true) :
    HonestWrite offered (Output.replyTo offered response) (response.taken offered) := by
  have hlength : 0 < offered.length := List.length_pos_iff.mpr hoffered
  cases response with
  | all =>
      have hreply : Output.replyTo offered .all = .ok ⟨offered.length, hlength⟩ := by
        simp [Output.replyTo, WriteResponse.claimed?, hlength]
      have htaken : WriteResponse.all.taken offered = offered.take offered.length := by
        simp [WriteResponse.taken]
      rw [hreply, htaken]
      exact .took ⟨offered.length, hlength⟩
  | atMost limit =>
      by_cases hlimit : limit = 0
      · rw [hlimit]
        have hreply : Output.replyTo offered (.atMost 0) = .error (.plain .writeZero) := by
          simp [Output.replyTo, WriteResponse.claimed?]
        rw [hreply]
        exact .failed _
      · have hclaimed : 0 < min limit offered.length := by omega
        have hreply : Output.replyTo offered (.atMost limit) =
            .ok ⟨min limit offered.length, hclaimed⟩ := by
          simp [Output.replyTo, WriteResponse.claimed?, hclaimed]
        have htaken : (WriteResponse.atMost limit).taken offered =
            offered.take (min limit offered.length) :=
          List.take_eq_take_min
        rw [hreply, htaken]
        exact .took ⟨min limit offered.length, hclaimed⟩
  | fails error => exact .failed error
  | beyond extra => simp [WriteResponse.isHonest] at hhonest
  | panics => simp [WriteResponse.isHonest] at hhonest

theorem response_of_panic {offered : List UInt8} {response : WriteResponse}
    (h : Output.replyTo offered response = .panic) : response = .panics := by
  cases response with
  | panics => rfl
  | fails x => cases h
  | _ =>
      simp only [Output.replyTo] at h
      split at h <;> cases h

theorem Effort.calls_afterError {retries : UInt32} {f f' : Effort} {e : IoError}
    {between : List Happening} (h : f.afterError retries e = some (f', between)) :
    between.filterMap Happening.call? = [] := by
  unfold Effort.afterError at h
  split at h
  · simp only [Option.some.injEq, Prod.mk.injEq] at h
    rw [← h.2]
    rfl
  · split at h
    · cases h
    · simp only [Option.some.injEq, Prod.mk.injEq] at h
      rw [← h.2]
      rfl

end AsyncLog
