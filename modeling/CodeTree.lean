import CodeTree.Json.Text
import CodeTree.Reference
import CodeTree.Rebuild.Backfill
import CodeTree.Rebuild.Traced
import CodeTree.Source.Json
import CodeTree.Tree.Constant
import CodeTree.Tree.Equivalence
import CodeTree.Tree.TyFold
import CodeTree.Walk.ReadNames
import CodeTree.Walk.References
import CodeTree.Walk.Traced
import CodeTree.Proofs.Constant
import CodeTree.Proofs.DocComment.AtSigns
import CodeTree.Proofs.DocComment.Refusal
import CodeTree.Proofs.Equivalence.Blindness
import CodeTree.Proofs.Equivalence.Congruence
import CodeTree.Proofs.Equivalence.Conversions
import CodeTree.Proofs.Equivalence.Relation
import CodeTree.Proofs.Equivalence.ReadNames
import CodeTree.Proofs.Rebuild.Backfill
import CodeTree.Proofs.Rebuild.Calls
import CodeTree.Proofs.Rebuild.Nodewise
import CodeTree.Proofs.Rebuild.Overriding
import CodeTree.Proofs.Rebuild.Renaming
import CodeTree.Proofs.Rebuild.Types
import CodeTree.Proofs.Shown
import CodeTree.Proofs.Source.Covered
import CodeTree.Proofs.Source.Stored
import CodeTree.Proofs.Tree.DefaultTypes
import CodeTree.Proofs.Walk.Agreement
import CodeTree.Proofs.Walk.ClassParents
import CodeTree.Proofs.Walk.Overriding
import CodeTree.Proofs.Walk.ReadNames
import CodeTree.Proofs.Walk.References
import CodeTree.Proofs.Walk.Renaming
import CodeTree.Proofs.Walk.SpanBlindness
