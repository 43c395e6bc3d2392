import DisplayDrivers.Perf.Votes

/-! # Switching the path of the bandwidth votes

The debug file system changes `bw_vote_mode` and sets `bw_vote_mode_updated`. The next update is to
give up what was voted on the path of the mode before.

The RSC votes with what was triggered last. With `APPS_RSC_MODE` nothing triggers it any more, so
that the zeros that are asked of it then change no vote.
-/

namespace DisplayDrivers.Perf

open DisplayDrivers.Power
structure VotesOnly (kms kms' : Kms) : Prop where
  crtc : kms'.crtc = kms.crtc
  mode : kms'.perf.bwVoteMode = kms.perf.bwVoteMode
  available : kms'.perf.sdeRscAvailable = kms.perf.sdeRscAvailable
  client : kms'.coreClient = kms.coreClient
  clist : kms'.power.handle.powerClientClist = kms.power.handle.powerClientClist

theorem VotesOnly.refl (kms : Kms) : VotesOnly kms kms := ⟨rfl, rfl, rfl, rfl, rfl⟩

theorem VotesOnly.trans {kms kms' kms'' : Kms} (first : VotesOnly kms kms')
    (second : VotesOnly kms' kms'') : VotesOnly kms kms'' :=
  { crtc := second.crtc.trans first.crtc
    mode := second.mode.trans first.mode
    available := second.available.trans first.available
    client := second.client.trans first.client
    clist := second.clist.trans first.clist }

theorem VotesOnly.clientOf {kms kms' : Kms} (same : VotesOnly kms kms') (c : CrtcId) :
    kms'.clientOf c = kms.clientOf c := by
  simp [Kms.clientOf, getSdeClientType, CorePerf.byClient, same.crtc, same.mode, same.available]

section Bus
variable {kms : Kms} {c : CrtcId} {k : CrtcClientType}

end Bus

/-! ## One update of a CRTC -/

section Update
variable {kms : Kms} {c : CrtcId} {k : CrtcClientType}

end Update

end DisplayDrivers.Perf
