import PhotoGrouping.Config.Json
import PhotoGrouping.Main
import PhotoGrouping.Proofs.CommandLine.Pending
import PhotoGrouping.Proofs.CommandLine.Segments
import PhotoGrouping.Proofs.Filename.Coverage
import PhotoGrouping.Proofs.GroupPattern.Ignoring
import PhotoGrouping.Proofs.GroupPattern.OneFile
import PhotoGrouping.Proofs.GroupPattern.Pooling
import PhotoGrouping.Proofs.Grouping.Independence
import PhotoGrouping.Proofs.Grouping.Overlaps
import PhotoGrouping.Proofs.Grouping.Passes
import PhotoGrouping.Proofs.Grouping.RuleOrder
import PhotoGrouping.Proofs.Log.Stretches
import PhotoGrouping.Proofs.PatternScan.Acceptance
import PhotoGrouping.Proofs.PatternScan.Escaped
import PhotoGrouping.Proofs.PatternScan.Quantifiers
import PhotoGrouping.Proofs.PatternScan.Supported
import PhotoGrouping.Proofs.Preview.Outcomes
import PhotoGrouping.Proofs.RolePattern.Meaning
import PhotoGrouping.Proofs.RolePattern.Overrides
import PhotoGrouping.Proofs.SegmentLabel.History
import PhotoGrouping.Proofs.SegmentLabel.Summary
import PhotoGrouping.Proofs.Token.Classifiers
import PhotoGrouping.Proofs.Token.Typing
import PhotoGrouping.Proofs.Validation.Conflicts
import PhotoGrouping.Proofs.Validation.Contradictions
import PhotoGrouping.Proofs.Validation.SampleOrder
import PhotoGrouping.Proofs.Validation.Samples
