namespace PhotoGrouping

/-- Problems that forbid the use of a configuration. -/
inductive ErrorKind
  | noGroupIdSelected
  | invalidGroupPattern
  | noRoleRulesDefined
  | noFilesMatched
  | incompleteGroups
  | regexSyntaxError
  | emptyGroupPattern
  | noRolePatterns
  | invalidRuleValue
  | multipleCapturingGroups
  | noCapturingGroups
  | invalidRuleConfiguration
  | invalidRegexPattern
  deriving Repr, DecidableEq

namespace ErrorKind

def all : List ErrorKind := [
  .noGroupIdSelected, .invalidGroupPattern, .noRoleRulesDefined, .noFilesMatched,
  .incompleteGroups, .regexSyntaxError, .emptyGroupPattern, .noRolePatterns, .invalidRuleValue,
  .multipleCapturingGroups, .noCapturingGroups, .invalidRuleConfiguration, .invalidRegexPattern]

def name : ErrorKind → String
  | .noGroupIdSelected => "NO_GROUP_ID_SELECTED"
  | .invalidGroupPattern => "INVALID_GROUP_PATTERN"
  | .noRoleRulesDefined => "NO_ROLE_RULES_DEFINED"
  | .noFilesMatched => "NO_FILES_MATCHED"
  | .incompleteGroups => "INCOMPLETE_GROUPS"
  | .regexSyntaxError => "REGEX_SYNTAX_ERROR"
  | .emptyGroupPattern => "EMPTY_GROUP_PATTERN"
  | .noRolePatterns => "NO_ROLE_PATTERNS"
  | .invalidRuleValue => "INVALID_RULE_VALUE"
  | .multipleCapturingGroups => "MULTIPLE_CAPTURING_GROUPS"
  | .noCapturingGroups => "NO_CAPTURING_GROUPS"
  | .invalidRuleConfiguration => "INVALID_RULE_CONFIGURATION"
  | .invalidRegexPattern => "INVALID_REGEX_PATTERN"

def named? (s : String) : Option ErrorKind :=
  all.find? (·.name == s)

/-- What a kind of error says where nothing more is known. -/
def defaultMessage : ErrorKind → String
  | .noGroupIdSelected => "No group ID token has been selected"
  | .invalidGroupPattern => "The group pattern is invalid"
  | .noRoleRulesDefined => "No role rules are defined"
  | .noFilesMatched => "No files matched the group pattern"
  | .incompleteGroups => "Some groups are missing required roles"
  | .regexSyntaxError => "A pattern has invalid regular expression syntax"
  | .emptyGroupPattern => "The group pattern is empty"
  | .noRolePatterns => "No role patterns are defined for FRONT, REAR or OVERVIEW"
  | .invalidRuleValue => "A role rule has an empty value"
  | .multipleCapturingGroups => "The group pattern has more than one capturing group"
  | .noCapturingGroups => "The group pattern has no capturing group for the group ID"
  | .invalidRuleConfiguration => "A role rule is configured incorrectly"
  | .invalidRegexPattern => "A regular expression could not be compiled"

end ErrorKind

/-- Problems that are worth a look. -/
inductive WarningKind
  | unmatchedFiles
  | incompleteGroupCoverage
  | overlappingRules
  | restrictivePattern
  | permissivePattern
  | caseSensitivity
  | complexRegex
  | noOverviewImages
  | unbalancedGroups
  | extensionMismatch
  | emptyRuleValue
  | missingRoleRules
  | noSampleFiles
  | lowMatchRate
  | incompleteGroups
  deriving Repr, DecidableEq

namespace WarningKind

def all : List WarningKind := [
  .unmatchedFiles, .incompleteGroupCoverage, .overlappingRules, .restrictivePattern,
  .permissivePattern, .caseSensitivity, .complexRegex, .noOverviewImages, .unbalancedGroups,
  .extensionMismatch, .emptyRuleValue, .missingRoleRules, .noSampleFiles, .lowMatchRate,
  .incompleteGroups]

def name : WarningKind → String
  | .unmatchedFiles => "UNMATCHED_FILES"
  | .incompleteGroupCoverage => "INCOMPLETE_GROUP_COVERAGE"
  | .overlappingRules => "OVERLAPPING_RULES"
  | .restrictivePattern => "RESTRICTIVE_PATTERN"
  | .permissivePattern => "PERMISSIVE_PATTERN"
  | .caseSensitivity => "CASE_SENSITIVITY_WARNING"
  | .complexRegex => "COMPLEX_REGEX"
  | .noOverviewImages => "NO_OVERVIEW_IMAGES"
  | .unbalancedGroups => "UNBALANCED_GROUPS"
  | .extensionMismatch => "EXTENSION_MISMATCH"
  | .emptyRuleValue => "EMPTY_RULE_VALUE"
  | .missingRoleRules => "MISSING_ROLE_RULES"
  | .noSampleFiles => "NO_SAMPLE_FILES"
  | .lowMatchRate => "LOW_MATCH_RATE"
  | .incompleteGroups => "INCOMPLETE_GROUPS"

def named? (s : String) : Option WarningKind :=
  all.find? (·.name == s)

/-- What a kind of warning says where nothing more is known. -/
def defaultMessage : WarningKind → String
  | .unmatchedFiles => "Some files did not match the configured patterns"
  | .incompleteGroupCoverage => "Not every group has every role covered"
  | .overlappingRules => "Rules for different roles overlap"
  | .restrictivePattern => "The group pattern may be too restrictive"
  | .permissivePattern => "The group pattern may be too permissive"
  | .caseSensitivity => "A case-sensitive rule may miss files with different casing"
  | .complexRegex => "A regular expression is complex and may be slow or hard to maintain"
  | .noOverviewImages => "No overview pattern is defined; overview images will not be identified"
  | .unbalancedGroups => "Group sizes vary widely"
  | .extensionMismatch => "Matched files use more than one file extension"
  | .emptyRuleValue => "A rule has an empty value and will never match"
  | .missingRoleRules => "A role has no rules"
  | .noSampleFiles => "No sample files were provided for testing"
  | .lowMatchRate => "Less than 80% of the sample files matched"
  | .incompleteGroups => "Some groups are missing FRONT or REAR images"

end WarningKind

end PhotoGrouping
