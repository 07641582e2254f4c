import SmartThingsLocal.CoapTcp.StreamErrors
import SmartThingsLocal.Coap.Block2Assembly
import SmartThingsLocal.Ble.FramingExact
import SmartThingsLocal.Ble.FailClosed
import SmartThingsLocal.Ble.Adaptive
import SmartThingsLocal.Session.RegistrationAnswer
import SmartThingsLocal.Session.BlockwiseExact
import SmartThingsLocal.Session.CompleteDelivery
import SmartThingsLocal.Session.RefetchRollback
import SmartThingsLocal.Session.AckCorrelation
import SmartThingsLocal.Session.RetiredRelations
import SmartThingsLocal.Session.ExchangeDecision
import SmartThingsLocal.Session.ConfirmedWrite
import SmartThingsLocal.Session.Block1Negotiation
import SmartThingsLocal.Session.StaleAcknowledgements
import SmartThingsLocal.Session.WriteRetransmission
import SmartThingsLocal.Session.TerminalQuiescence
import SmartThingsLocal.Dtls.ForgedDatagrams
import SmartThingsLocal.Dtls.RecordNumbers
import SmartThingsLocal.Dtls.ApplicationData
import SmartThingsLocal.Dtls.HelloVerify
import SmartThingsLocal.Dtls.HvrCleanup
import SmartThingsLocal.Dtls.InOrderDelivery
import SmartThingsLocal.Dtls.HostileInput
import SmartThingsLocal.Dtls.ReplayNumbers
import SmartThingsLocal.Dtls.OverlappingFragments
import SmartThingsLocal.Dtls.SendLimits
import SmartThingsLocal.Dtls.RecordSplitters
import SmartThingsLocal.Session.RegisteredOptions
import SmartThingsLocal.Session.EtagAgreement
import SmartThingsLocal.Session.GetProgress
import SmartThingsLocal.Ocf.OptimisticWrites
import SmartThingsLocal.Ocf.Deferrals
import SmartThingsLocal.Bridge.Fetchbacks
import SmartThingsLocal.Bridge.Publishing
import SmartThingsLocal.Oven.StartBounds
import SmartThingsLocal.Discovery.PeerPinning
import SmartThingsLocal.Discovery.SoundPorts
import SmartThingsLocal.Session.MidAllocation
import SmartThingsLocal.Coap.ContinuationBlocks
import SmartThingsLocal.Endpoint.HostFilter
import SmartThingsLocal.Oven.CommandCallback
import SmartThingsLocal.Oven.ProgramRefinement
import SmartThingsLocal.Dtls.ConnectHandshake
import SmartThingsLocal.Dtls.Cancellation
import SmartThingsLocal.Discovery.DtlsProbe
import SmartThingsLocal.Discovery.Multicast
import SmartThingsLocal.Bridge.PortResolution
import SmartThingsLocal.Ocf.Keepalive
import SmartThingsLocal.Bridge.HalfOpen
import SmartThingsLocal.Bridge.Shutdown
import SmartThingsLocal.Samples.DryerFinish
import SmartThingsLocal.Samples.OvenFinish
