import EraRewards.Main
import EraRewards.Proofs.Contents
import EraRewards.Proofs.Effect
import EraRewards.Proofs.Rotation
import EraRewards.Storage.Tuning
import EraRewards.Proofs.Booking
import EraRewards.Proofs.Call
import EraRewards.Proofs.Run
import EraRewards.Proofs.History
import EraRewards.Proofs.Deployment
import EraRewards.Proofs.BundledStore
import EraRewards.Proofs.VolumeConservation
import EraRewards.Proofs.ValueConservation
import EraRewards.Proofs.ClosedEra
import EraRewards.Proofs.ProRata
import EraRewards.Proofs.Acceptance
import EraRewards.Proofs.EraGuard
import EraRewards.Proofs.Apportionment
import EraRewards.Proofs.Budget
import EraRewards.Proofs.Atomicity
import EraRewards.Proofs.StoredForm
import EraRewards.Proofs.Batch
import EraRewards.Proofs.Independence
import EraRewards.Proofs.DroppedRecord
import EraRewards.Proofs.Interface
import EraRewards.Proofs.TouchTime
import EraRewards.Proofs.TokenRange
import EraRewards.Proofs.Posture
import EraRewards.Proofs.ReadBack
import EraRewards.Proofs.EventTail
import EraRewards.Proofs.Counters
import EraRewards.Proofs.Loading
import EraRewards.Proofs.TickSegment
import EraRewards.Proofs.Rounding
import EraRewards.Proofs.Occupancy
