import TestPlanner.Prose.MarkingJson
import TestPlanner.Main
import TestPlanner.Shell.Syntax
import TestPlanner.Shell.Word
import TestPlanner.Proofs.Plan.Json
import TestPlanner.Proofs.Recording.Repetition
import TestPlanner.Proofs.Recording.Stream
import TestPlanner.Proofs.Recording.Values
import TestPlanner.Proofs.Recording.Log
import TestPlanner.Proofs.Artifact.Agreement
import TestPlanner.Proofs.Artifact.References
import TestPlanner.Proofs.Artifact.Members
import TestPlanner.Proofs.Synthesis.History
import TestPlanner.Proofs.Artifact.BoundSteps
import TestPlanner.Proofs.Artifact.Comments
import TestPlanner.Proofs.Artifact.Literals
import TestPlanner.Proofs.Synthesis.Failures
import TestPlanner.Proofs.Selector.NormalForm
import TestPlanner.Proofs.Naming.FeatureName
import TestPlanner.Proofs.Screenshot.FieldSteps
import TestPlanner.Proofs.Prose.WrittenScenarios
import TestPlanner.Proofs.Prose.ScenarioKinds
import TestPlanner.Proofs.Prose.ScenarioLabel
import TestPlanner.Proofs.Prose.WordClasses
import TestPlanner.Proofs.Prose.Quotations
import TestPlanner.Proofs.Prose.StoryHoles
import TestPlanner.Proofs.Naming.NameSearch
import TestPlanner.Proofs.Screenshot.Report
import TestPlanner.Proofs.Configuration.Stored
import TestPlanner.Proofs.CommandLine.InitConfiguration
