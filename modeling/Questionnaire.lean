import Questionnaire.Main
import Questionnaire.Workspace
import Questionnaire.Proofs.Form.Soundness
import Questionnaire.Proofs.Outcome
import Questionnaire.Proofs.Store.Commit
import Questionnaire.Proofs.Builder.Commit
import Questionnaire.Proofs.Workspace.Run
import Questionnaire.Proofs.Workspace.Lifetime
import Questionnaire.Proofs.Members
import Questionnaire.Proofs.Session.Submission
import Questionnaire.Proofs.Visibility.Key
import Questionnaire.Proofs.Visibility.Answers
import Questionnaire.Proofs.Visibility.Memory
import Questionnaire.Proofs.Visibility.Recency
import Questionnaire.Proofs.Visibility.Overflow
import Questionnaire.Proofs.Validation.Compilation
import Questionnaire.Proofs.Session.Failure
import Questionnaire.Proofs.Throughout
import Questionnaire.Proofs.Visibility.Fresh
import Questionnaire.Proofs.Session.Answering
import Questionnaire.Proofs.Session.Coherence
import Questionnaire.Proofs.Session.Bounds
import Questionnaire.Proofs.Ensemble.Basic
import Questionnaire.Proofs.Ensemble.Together
import Questionnaire.Proofs.Ensemble.Run
import Questionnaire.Proofs.Ensemble.History
import Questionnaire.Proofs.Validation.Application
import Questionnaire.Proofs.Validation.Cleaning
import Questionnaire.Proofs.Session.Concealment
import Questionnaire.Proofs.Session.Edits
import Questionnaire.Proofs.Session.Commuting
import Questionnaire.Proofs.Value.Json
import Questionnaire.Proofs.Value.Within
import Questionnaire.Proofs.Form.Import
import Questionnaire.Proofs.Form.Portable
import Questionnaire.Proofs.Form.Respelling
import Questionnaire.Proofs.Form.Data
import Questionnaire.Proofs.Store.Data
import Questionnaire.Proofs.Builder.Data
import Questionnaire.Proofs.Json.Data
import Questionnaire.Proofs.Workspace.Export
import Questionnaire.Proofs.Number.Rounding
import Questionnaire.Proofs.Number.Digits
import Questionnaire.Proofs.Number.Shortest
import Questionnaire.Proofs.Number.Layout
import Questionnaire.Proofs.Json.Number
import Questionnaire.Proofs.Json.Text
import Questionnaire.Proofs.Json.Value
import Questionnaire.Proofs.Json.RoundTrip
import Questionnaire.Proofs.Form.Document
import Questionnaire.Proofs.Validation.Patterns
import Questionnaire.Proofs.CommandLine.Files
import Questionnaire.Proofs.Visibility.Deciding
import Questionnaire.Proofs.Visibility.Defaults
import Questionnaire.Proofs.CommandLine.Agreement
import Questionnaire.Proofs.Validation.DeadConditions
import Questionnaire.Proofs.Workspace.Announcement
import Questionnaire.Proofs.Number.Range
import Questionnaire.Proofs.Visibility.Totality
import Questionnaire.Proofs.CommandLine.ExitCodes
import Questionnaire.Proofs.Form.Offences
import Questionnaire.Proofs.Store.Lasting
import Questionnaire.Proofs.Builder.Lasting
import Questionnaire.Proofs.Workspace.Lasting
import Questionnaire.Proofs.Form.Parts
import Questionnaire.Proofs.Form.Attributes
import Questionnaire.Proofs.Builder.Place
import Questionnaire.Proofs.Builder.Merging
import Questionnaire.Proofs.Store.Updating
import Questionnaire.Proofs.Store.Reordering
import Questionnaire.Proofs.Builder.Moving
import Questionnaire.Proofs.Builder.PointEdits
import Questionnaire.Proofs.Validation.Answers
import Questionnaire.Proofs.Validation.Shapes
import Questionnaire.Proofs.Validation.Texts
import Questionnaire.Proofs.Session.Files
import Questionnaire.Proofs.Gathering
import Questionnaire.Proofs.Validation.Objections
import Questionnaire.Proofs.Validation.Positions
import Questionnaire.Proofs.Validation.Keys
import Questionnaire.Proofs.Validation.Locality
import Questionnaire.Proofs.Validation.Sections
import Questionnaire.Proofs.Validation.Wording
import Questionnaire.Proofs.Builder.FreshIds
import Questionnaire.Proofs.Builder.Appending
import Questionnaire.Proofs.Builder.Numbering
import Questionnaire.Proofs.Builder.Revealing
import Questionnaire.Proofs.Builder.Spelling
import Questionnaire.Proofs.Builder.Lookups
import Questionnaire.Proofs.Validation.Lacking
import Questionnaire.Proofs.Session.Untouched
import Questionnaire.Proofs.Number.Points
import Questionnaire.Proofs.Number.Order
import Questionnaire.Proofs.Number.Numeral
import Questionnaire.Proofs.Visibility.Order
import Questionnaire.Proofs.Value.Equality
import Questionnaire.Proofs.Visibility.Strictness
import Questionnaire.Proofs.Visibility.Freezing
import Questionnaire.Proofs.Validation.Verdict
import Questionnaire.Proofs.Validation.Numerals
import Questionnaire.Proofs.Pattern.Language
import Questionnaire.Proofs.Text.LetterCase
import Questionnaire.Proofs.Validation.Email
