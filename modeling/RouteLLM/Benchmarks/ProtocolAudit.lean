import RouteLLM.Models

/-!
# Output budget exhaustion

The part of `benchmarks/protocol_audit.py` that the runner uses.
-/

namespace RouteLLM

/-- `visible_response_appears_truncated`: a conservative fallback for providers that omit termination
metadata. -/
def visibleResponseAppearsTruncated (text : String) : Bool :=
  let value := PyStr.rstrip text.toList
  let endsWith (suffix : String) : Bool := suffix.toList.isSuffixOf value
  match value.getLast? with
  | none => true
  | some last =>
    PyStr.count "```".toList value % 2 ≠ 0 ||
      ["len", "cl", "14:0"].any endsWith ||
      "([\x7b,:=+-*/\\".toList.contains last ||
      value.contains '\n' && !(['.', '!', '?', ']', ')', '\x7d', '\'', '"'].contains last)

/-- `response_output_budget_exhaustion`: an authoritative termination, or the fallback near the
allowance. -/
def responseOutputBudgetExhaustion (response : InferenceResponse)
    (outputTokenLimit : PositiveTokenCount) : Bool :=
  match response.terminationReason with
  | .length => true
  | .unknown =>
    max 1 ((outputTokenLimit.val : ℤ) - 8) ≤ response.outputTokens &&
      visibleResponseAppearsTruncated response.text
  | _ => false

end RouteLLM
