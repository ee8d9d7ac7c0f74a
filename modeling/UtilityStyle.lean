import UtilityStyle.ClassList
import UtilityStyle.Proofs.Catalog
import UtilityStyle.Proofs.Catalog.Dangling
import UtilityStyle.Proofs.Catalog.Importance
import UtilityStyle.Proofs.Catalog.Palette
import UtilityStyle.Proofs.Catalog.Reference
import UtilityStyle.Proofs.Catalog.Step
import UtilityStyle.Proofs.Catalog.Unambiguous
import UtilityStyle.Proofs.Catalog.WellFormed
import UtilityStyle.Proofs.Catalog.WrittenColor
import UtilityStyle.Proofs.ClassList.Address
import UtilityStyle.Proofs.ClassList.Key
import UtilityStyle.Proofs.ClassList.Range
import UtilityStyle.Proofs.ClassList.Visible
import UtilityStyle.Proofs.ClassName
import UtilityStyle.Proofs.Color.HexText
import UtilityStyle.Proofs.Lowering.Atomic
import UtilityStyle.Proofs.Lowering.Commute
import UtilityStyle.Proofs.Lowering.Cover
import UtilityStyle.Proofs.Lowering.Opacity
import UtilityStyle.Proofs.Lowering.Override
import UtilityStyle.Proofs.Lowering.PaintInvariant
import UtilityStyle.Proofs.Lowering.Shadow
import UtilityStyle.Proofs.Lowering.Sided
import UtilityStyle.Proofs.Lowering.Sign
import UtilityStyle.Proofs.Lowering.Sizing
import UtilityStyle.Proofs.Lowering.Tables
import UtilityStyle.Proofs.Modifier
import UtilityStyle.Proofs.Modifier.Order
import UtilityStyle.Proofs.Selector
import UtilityStyle.Proofs.Selector.Delimited
import UtilityStyle.Proofs.Text.Matching
import UtilityStyle.Proofs.Theme.Document
import UtilityStyle.Proofs.Theme.Route
import UtilityStyle.Proofs.Theme.Variables
import UtilityStyle.Proofs.Utility.Fragment
import UtilityStyle.Proofs.Utility.Numeric
import UtilityStyle.Proofs.Utility.Stem
import UtilityStyle.Proofs.Utility.Token
import UtilityStyle.Theme.Document
import UtilityStyle.Theme.Variables
