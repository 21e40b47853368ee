import DerivationPool.Main
import DerivationPool.Entropy
import DerivationPool.Service.Session
import DerivationPool.Surroundings
import DerivationPool.Proofs.Pool.Run
import DerivationPool.Proofs.Pool.Account
import DerivationPool.Proofs.Pool.Ledger
import DerivationPool.Proofs.Pool.Invariant
import DerivationPool.Proofs.Pool.Capacity
import DerivationPool.Proofs.Pool.Answers
import DerivationPool.Proofs.Pool.Shutdown
import DerivationPool.Proofs.Cbor.Reading
import DerivationPool.Proofs.Message.Entries
import DerivationPool.Proofs.Message.Formats
import DerivationPool.Proofs.Message.Rules
import DerivationPool.Proofs.Secret.Drawing
import DerivationPool.Proofs.Operation.Table
import DerivationPool.Proofs.Pool.Salts
import DerivationPool.Proofs.Text.Length
import DerivationPool.Proofs.Job.Texts
import DerivationPool.Proofs.Cbor.Errors
import DerivationPool.Proofs.Cbor.Bounds
import DerivationPool.Proofs.Message.Errors
import DerivationPool.Proofs.Pool.Progress
import DerivationPool.Proofs.Service.Handling
import DerivationPool.Proofs.Service.Fidelity
import DerivationPool.Proofs.Derivation.Expansion
import DerivationPool.Proofs.Secret.Series
import DerivationPool.Proofs.Cbor.Taking
import DerivationPool.Proofs.Cbor.Claims
import DerivationPool.Proofs.Message.Taking
import DerivationPool.Proofs.Message.Content
import DerivationPool.Proofs.Pool.Queue
import DerivationPool.Proofs.Pool.Sequential
import DerivationPool.Proofs.Message.Distinction
import DerivationPool.Proofs.Operation.DerivateKey
import DerivationPool.Proofs.Service.Classification
import DerivationPool.Proofs.Pool.Counterparts
import DerivationPool.Proofs.Service.Secrecy
import DerivationPool.Proofs.Derivation.Blocks
import DerivationPool.Proofs.Derivation.Salts
import DerivationPool.Proofs.Operation.Responses
import DerivationPool.Proofs.Service.Room
import DerivationPool.Proofs.MasterKey.Source
import DerivationPool.Proofs.CommandLine.Start
import DerivationPool.Proofs.MasterKey.Text
import DerivationPool.Proofs.Text.Hex
