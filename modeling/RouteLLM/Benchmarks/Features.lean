import RouteLLM.Benchmarks.Models
import RouteLLM.Routing.Features

/-!
# Request features of the benchmark

`benchmarks/features.py`, over the same text functions as the serving extractor.
-/

namespace RouteLLM

/-- `extract_request_features` of a task. -/
def extractRequestFeatures (indicators : TextIndicators) (task : BenchmarkTask) :
    RequestFeatures :=
  let text := requestText task.toInferenceRequest
  { category := some task.category.value
    promptCharacters := task.prompt.length
    systemPromptCharacters := (task.systemPrompt.getD "").length
    approximateInputTokens := approximateInputTokens task.toInferenceRequest
    containsCode := indicators.textContainsCode text
    requestsStructuredOutput :=
      task.expectedOutputType = .json || task.expectedOutputType = .code
    maxOutputTokens := task.maxOutputTokens
    constraintIndicatorCount := indicators.constraintIndicatorCount text
    reasoningIndicatorCount := indicators.reasoningIndicatorCount text }

end RouteLLM
