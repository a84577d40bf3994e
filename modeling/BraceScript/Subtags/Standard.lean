import BraceScript.Subtags.Choice
import BraceScript.Subtags.Computation
import BraceScript.Subtags.Data
import BraceScript.Subtags.Flow
import BraceScript.Subtags.Iteration
import BraceScript.Subtags.Lookup
import BraceScript.Subtags.Presentation
import BraceScript.Subtags.Procedure

namespace BraceScript.Subtags

def standardDeclarations : List (Declaration Handler) :=
  dataDeclarations ++ choiceDeclarations ++ flowDeclarations ++ iterationDeclarations ++
    procedureDeclarations ++ presentationDeclarations ++ computationDeclarations ++
    lookupDeclarations

def standard : Except BuildError (List (Definition Handler)) :=
  standardDeclarations.mapM Definition.ofDeclaration

end BraceScript.Subtags
