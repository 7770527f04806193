import LowestTerms.Session.Run
import LowestTerms.Proofs.Decimal.Neighbours
import LowestTerms.Proofs.Fraction.Decimal
import LowestTerms.Proofs.Fraction.Text
import LowestTerms.Proofs.Literal.Grammar
import LowestTerms.Proofs.Session.Invariant
import LowestTerms.Proofs.Session.Undefined
import LowestTerms.Proofs.Fraction.Integer
import LowestTerms.Proofs.Session.Effects
import LowestTerms.Proofs.Session.Lifting
import LowestTerms.Proofs.Decimal.Closest
import LowestTerms.Proofs.Fraction.Closest
import LowestTerms.Proofs.Fraction.Reduction
import LowestTerms.Proofs.Fraction.Rounding
import LowestTerms.Proofs.Fraction.Totals
import LowestTerms.Proofs.Fraction.DecimalText
import LowestTerms.Proofs.Fraction.Reading
import LowestTerms.Proofs.Literal.Faults
import LowestTerms.Proofs.Fraction.CommonDenominator
import LowestTerms.Proofs.Fraction.Collections
import LowestTerms.Proofs.Layers
import LowestTerms.Proofs.Session.Binary
