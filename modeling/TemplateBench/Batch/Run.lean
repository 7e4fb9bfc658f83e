import TemplateBench.Batch.Evaluation
import TemplateBench.Batch.Pool
import TemplateBench.Batch.Statistics

/-!
Running all templates of a batch.

Both ways of running yield the evaluations in the order in which they are shown and recorded: one
after the other this is the order of the templates, in a pool the order in which they are collected.
-/
namespace TemplateBench.Bench

/-- The time that the engine takes for each template. -/
abbrev Clock := TemplateFile → Float

def runSequential (b : Bench) (t : FileTree) (clock : Clock) (files : List TemplateFile) :
    List Evaluation :=
  files.map fun f => b.evaluate t (clock f) f

def runPooled (b : Bench) (t : FileTree) (clock : Clock) (workers : Nat)
    (files : List TemplateFile) : List Evaluation :=
  ((Pool.start workers files).run fun f => b.evaluate t (clock f) f).recorded

def run (b : Bench) (t : FileTree) (clock : Clock) (execution : Execution) (workers : Nat)
    (files : List TemplateFile) : List Evaluation :=
  match execution with
  | .sequential => b.runSequential t clock files
  | .pooled => b.runPooled t clock workers files

end TemplateBench.Bench
