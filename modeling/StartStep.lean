import StartStep.Main
import StartStep.Session
import StartStep.Proofs.Conformance
import StartStep.Proofs.Neutrality
import StartStep.Proofs.Faults
import StartStep.Proofs.Redaction
import StartStep.Proofs.History
import StartStep.Proofs.Coherence
import StartStep.Proofs.Counting
import StartStep.Proofs.Accounts
import StartStep.Proofs.Reading
import StartStep.Proofs.Narrowing
import StartStep.Proofs.BuildOrder
import StartStep.Proofs.Drafts
import StartStep.Proofs.RoundTrip
import StartStep.Proofs.Disclosure
import StartStep.Proofs.Identity
import StartStep.Proofs.Outline
import StartStep.Proofs.ClassLabels
