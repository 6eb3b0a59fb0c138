import Ndef.BuildError
import Ndef.Bytes
import Ndef.Caseless
import Ndef.Command
import Ndef.Cut
import Ndef.Description
import Ndef.Frame
import Ndef.Header
import Ndef.Hex
import Ndef.JsonText
import Ndef.Language
import Ndef.Layout
import Ndef.Main
import Ndef.MediaType
import Ndef.Message
import Ndef.Payload.Error
import Ndef.Payload.SmartPoster
import Ndef.Payload.Text
import Ndef.Payload.Uri
import Ndef.Proofs.Agreement
import Ndef.Proofs.AreaMessages
import Ndef.Proofs.ArgumentScan
import Ndef.Proofs.Ascii
import Ndef.Proofs.Building
import Ndef.Proofs.ChainBytes
import Ndef.Proofs.ChainRecords
import Ndef.Proofs.ChainSteps
import Ndef.Proofs.CommandDecode
import Ndef.Proofs.CommandLine
import Ndef.Proofs.CommandRoundTrip
import Ndef.Proofs.Content
import Ndef.Proofs.Cursor
import Ndef.Proofs.DisplayLanguage
import Ndef.Proofs.Encoding
import Ndef.Proofs.FirstOf
import Ndef.Proofs.Framing
import Ndef.Proofs.Genuine
import Ndef.Proofs.Item
import Ndef.Proofs.JsonValue
import Ndef.Proofs.LanguageTag
import Ndef.Proofs.Layout
import Ndef.Proofs.MediaGrammar
import Ndef.Proofs.Outcome
import Ndef.Proofs.PosterDraft
import Ndef.Proofs.PosterIcon
import Ndef.Proofs.PosterOutcome
import Ndef.Proofs.PosterPart
import Ndef.Proofs.PosterPayload
import Ndef.Proofs.PosterRecords
import Ndef.Proofs.PosterRole
import Ndef.Proofs.PosterRoundTrip
import Ndef.Proofs.Precedence
import Ndef.Proofs.RawFraming
import Ndef.Proofs.Reachable
import Ndef.Proofs.Reading
import Ndef.Proofs.Rebuilding
import Ndef.Proofs.Recased
import Ndef.Proofs.ReportLine
import Ndef.Proofs.ReportValue
import Ndef.Proofs.Same
import Ndef.Proofs.Scanning
import Ndef.Proofs.Selection
import Ndef.Proofs.Span
import Ndef.Proofs.Splicing
import Ndef.Proofs.StoredBuilding
import Ndef.Proofs.StoredChains
import Ndef.Proofs.StoredInvariant
import Ndef.Proofs.StoredReading
import Ndef.Proofs.StoredRecords
import Ndef.Proofs.Surrogates
import Ndef.Proofs.TextForms
import Ndef.Proofs.TextPayload
import Ndef.Proofs.TextRoundTrip
import Ndef.Proofs.Truncation
import Ndef.Proofs.UriCode
import Ndef.Proofs.UriPayload
import Ndef.Proofs.Utf16
import Ndef.Reader
import Ndef.Record.Basic
import Ndef.Record.Build
import Ndef.Record.Same
import Ndef.RecordChain
import Ndef.Report
import Ndef.Settings
import Ndef.Stored.Building
import Ndef.Stored.Framing
import Ndef.Stored.Reading
import Ndef.Stored.Record
import Ndef.Tlv.Area
import Ndef.Tlv.Block
import Ndef.Toml.Document
import Ndef.Toml.Reading
import Ndef.Toml.Strings
import Ndef.Unicode.GraphemeExtend
import Ndef.Unicode.Quoted
import Ndef.Unicode.Ranges
import Ndef.Unicode.Unprintable
import Ndef.Unicode.Utf16
import Ndef.Unicode.Utf8
import Ndef.Unicode.WhiteSpace
import Ndef.WellKnown
