import Restyle.Main
import Restyle.Proofs.Session.Redundant
import Restyle.Proofs.Session.Waiting
import Restyle.Proofs.Source.OwnTag
import Restyle.Proofs.Source.Repatch
import Restyle.Proofs.Source.Agreement
import Restyle.Proofs.Document.Identified
import Restyle.Proofs.Session.History
import Restyle.Proofs.Component.RoundTrip
import Restyle.Proofs.Session.Spacing
import Restyle.Proofs.Session.Told
import Restyle.Proofs.Source.Commented
import Restyle.Proofs.Source.Verbatim
import Restyle.Proofs.Markup.Preorder
import Restyle.Proofs.Source.Elements
import Restyle.Proofs.Source.Bytes.Lowering
import Restyle.Proofs.Source.ChildText
import Restyle.Proofs.Source.LineBreaks
import Restyle.Proofs.Source.LineComments
import Restyle.Proofs.Source.Merge
import Restyle.Proofs.Source.Literal
import Restyle.Proofs.Source.Bytes.Patch
import Restyle.Proofs.Source.EnumValues
import Restyle.Proofs.Stylesheet.Selector
import Restyle.Proofs.Stylesheet.Cascade
import Restyle.Proofs.Stylesheet.Constructs
import Restyle.Proofs.Stylesheet.Squeezed
import Restyle.Proofs.Document.Edits
import Restyle.Proofs.Markup.Reference
import Restyle.Proofs.Document.InlineStyle
import Restyle.Proofs.Overrides.Snapshot
import Restyle.Proofs.Path.Grammar
import Restyle.Proofs.Source.Bytes.PassedOver
import Restyle.Proofs.Component.Scoped
