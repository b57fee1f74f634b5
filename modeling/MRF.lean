import MRF.Center.ExceptionQueue
import MRF.Center.IntervalPoll
import MRF.Center.RecoverLease
import MRF.Center.Routing
import MRF.Center.RetriedTimes
import MRF.Center.CoordinateSignal
import MRF.Center.FirstRound
import MRF.Center.PromptClients
import MRF.Center.Idempotence
import MRF.Center.BatchRecover
import MRF.Center.HouseKeepRound
import MRF.Center.Expiry
import MRF.Center.Halting
import MRF.Center.RegisterRace
import MRF.Center.CreatedAt
import MRF.Center.MostUrgent
import MRF.Center.NeverEarly
import MRF.Framework.NoLoss
import MRF.Framework.Recovery
import MRF.Framework.FromRecover
import MRF.Framework.RetryCount
import MRF.Client.HandsOverOnce
import MRF.Client.Serialization
import MRF.Client.Starter
import MRF.Pool.State
import MRF.Pool.Sound
import MRF.Pool.Account
import MRF.Pool.Lost
import MRF.Pool.ShutDown
import MRF.Pool.Return
import MRF.Pool.Stopping
import MRF.Pool.Finish
import MRF.Pool.Contract
import MRF.Library.Struct
import MRF.Wire.Structs
import MRF.Library.Rpc
import MRF.Wire.RoundTrip
import MRF.Wire.Service
import MRF.Pool.Calls
import MRF.Center.ShutDown
import MRF.Center.Orderly
import MRF.Center.Graceful
import MRF.Center.NeverHappens
import MRF.Center.Ending
import MRF.Library.Once
import MRF.Center.Starter
import MRF.Center.Initiating
import MRF.Center.Initiated
