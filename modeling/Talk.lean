import Talk.Core.Config
import Talk.Core.Template
import Talk.Ctl.Config
import Talk.Ctl.Key
import Talk.Ctl.Remote
import Talk.Ctl.Store
import Talk.Ctl.Tx
import Talk.Daemon.DomainKey
import Talk.Daemon.Notifications
import Talk.Daemon.Parallel
import Talk.Daemon.Parties
import Talk.Daemon.Rendering
import Talk.Daemon.Secure
import Talk.Daemon.Sink
import Talk.Imap.BodySection
import Talk.Imap.Fetch
import Talk.Imap.Parse
import Talk.Imap.Response
import Talk.Imap.Server
import Talk.Imap.Session
import Talk.Keys.Master
import Talk.Keys.Share
import Talk.Lib.Base64
import Talk.Lib.ByteStream
import Talk.Lib.Crlf
import Talk.Lib.Document
import Talk.Lib.Exchange
import Talk.Lib.Files
import Talk.Lib.Hex
import Talk.Lib.Incremental
import Talk.Lib.Interleaving
import Talk.Lib.Journal
import Talk.Lib.Json
import Talk.Lib.Like
import Talk.Lib.Loop
import Talk.Lib.Paths
import Talk.Lib.Removal
import Talk.Lib.Script
import Talk.Lib.Separated
import Talk.Lib.Slices
import Talk.Lib.Table
import Talk.Lib.Text
import Talk.Lib.Transition
import Talk.Lib.Utf8
import Talk.Lib.Words
import Talk.Mailstore.Calls
import Talk.Mailstore.Sqlite
import Talk.Mailstore.Statements
import Talk.Mailstore.Types
import Talk.Protocol.Attestation
import Talk.Protocol.Client
import Talk.Protocol.Codec
import Talk.Protocol.Dns
import Talk.Protocol.Envelope
import Talk.Protocol.Framing
import Talk.Protocol.Handshake
import Talk.Protocol.Mailbox
import Talk.Protocol.Registration
import Talk.Protocol.Session
import Talk.Verif.AcceptedDomains
import Talk.Verif.Accounts
import Talk.Verif.AddressBinding
import Talk.Verif.Agreement
import Talk.Verif.Announcements
import Talk.Verif.AppPasswords
import Talk.Verif.Arguments
import Talk.Verif.Atomicity
import Talk.Verif.BodySections
import Talk.Verif.ChallengeAge
import Talk.Verif.ChallengeWire
import Talk.Verif.Chunking
import Talk.Verif.ClientSteps
import Talk.Verif.CodecRoundTrip
import Talk.Verif.CommandSteps
import Talk.Verif.CommandsAlone
import Talk.Verif.ConfigLens
import Talk.Verif.Continuations
import Talk.Verif.DataKeys
import Talk.Verif.Deletion
import Talk.Verif.Dialogue
import Talk.Verif.DnsAnswers
import Talk.Verif.Duplicates
import Talk.Verif.EndToEnd
import Talk.Verif.ExpungeReplay
import Talk.Verif.FailingLines
import Talk.Verif.FaithfulView
import Talk.Verif.FetchIndependence
import Talk.Verif.FetchItems
import Talk.Verif.FetchedContent
import Talk.Verif.FramingRoundTrip
import Talk.Verif.HandshakeFreshness
import Talk.Verif.IdlePushes
import Talk.Verif.ImapSteps
import Talk.Verif.Inbox
import Talk.Verif.Isolation
import Talk.Verif.KeyFiles
import Talk.Verif.KeyLadder
import Talk.Verif.LastAddress
import Talk.Verif.LedgerAgreement
import Talk.Verif.Lifecycle
import Talk.Verif.Literals
import Talk.Verif.LossyDialogue
import Talk.Verif.MailboxAgreement
import Talk.Verif.MailboxModel
import Talk.Verif.MailboxSteps
import Talk.Verif.Mailboxes
import Talk.Verif.Markers
import Talk.Verif.Names
import Talk.Verif.OneDomainKey
import Talk.Verif.OutboundAgreement
import Talk.Verif.OutboundRecords
import Talk.Verif.Ownership
import Talk.Verif.ParallelDeliveries
import Talk.Verif.ParallelSessions
import Talk.Verif.PasswordHistory
import Talk.Verif.Pipelining
import Talk.Verif.QualifiedNames
import Talk.Verif.Quoting
import Talk.Verif.ReaderSteps
import Talk.Verif.Recording
import Talk.Verif.Registrations
import Talk.Verif.Rendering
import Talk.Verif.Replay
import Talk.Verif.ResponseSplitting
import Talk.Verif.SealedBodies
import Talk.Verif.SealedEnvelopes
import Talk.Verif.SearchKeys
import Talk.Verif.SelectedMailbox
import Talk.Verif.SequenceNumbers
import Talk.Verif.SequenceSets
import Talk.Verif.SessionInvariant
import Talk.Verif.SessionLoop
import Talk.Verif.SignedBytes
import Talk.Verif.SigningOracle
import Talk.Verif.StoreCalls
import Talk.Verif.StoreModes
import Talk.Verif.StoreSteps
import Talk.Verif.Synchronisation
import Talk.Verif.TokenShapes
import Talk.Verif.Tokenizer
import Talk.Verif.TrustLabels
import Talk.Verif.UidAllocation
import Talk.Verif.UidHistory
import Talk.Verif.UidValidity
import Talk.Wallet.Resolver
