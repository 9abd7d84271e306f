import OperationForge.Interchange.Exchange
import OperationForge.Wire.Cursor
import OperationForge.WireType
import OperationForge.Proofs.Numerals
import OperationForge.Proofs.CheckedTexts
import OperationForge.Proofs.Texts
import OperationForge.Proofs.Unsigned
import OperationForge.Proofs.Verification
import OperationForge.Proofs.Incremental
import OperationForge.Proofs.Scanners
import OperationForge.Proofs.Canonical
import OperationForge.Proofs.Sequences
import OperationForge.Proofs.Forms
import OperationForge.Proofs.Markers
import OperationForge.Proofs.Refusals
import OperationForge.Proofs.Positions
import OperationForge.Proofs.Overlong
import OperationForge.Proofs.WireForm
import OperationForge.Proofs.Dispatch
import OperationForge.Proofs.Exchanges
import OperationForge.Proofs.SecretKeys
import OperationForge.Proofs.Points
import OperationForge.Proofs.Accounts
import OperationForge.Proofs.Blobs
