import Chronometry.Engine
import Chronometry.Session
import Chronometry.Proofs.Registry.Standard
import Chronometry.Proofs.Duration.Balance
import Chronometry.Proofs.Duration.Coarsest
import Chronometry.Proofs.Duration.Sign
import Chronometry.Proofs.Order.Comparison
import Chronometry.Proofs.Duration.Sum
import Chronometry.Proofs.Instant.Translation
import Chronometry.Proofs.Instant.Difference
import Chronometry.Proofs.Order.Times
import Chronometry.Proofs.Order.Relations
import Chronometry.Proofs.Order.Equality
import Chronometry.Proofs.Quantity.Projection
import Chronometry.Proofs.Quantity.ConversionChain
import Chronometry.Proofs.Binary64.Nearest
import Chronometry.Proofs.Arithmetic.Outcome
import Chronometry.Proofs.Registry.Support
import Chronometry.Proofs.Quantity.FreshCount
import Chronometry.Proofs.Registry.Calls
import Chronometry.Proofs.Text.Trim
import Chronometry.Proofs.Text.WrittenDigits
import Chronometry.Proofs.DateText.WrittenInstant
import Chronometry.Proofs.DateText.FoldCase
import Chronometry.Proofs.DateText.Phrase
import Chronometry.Proofs.DateText.InstantText
import Chronometry.Proofs.Binary64.Position
import Chronometry.Proofs.Binary64.Whole
import Chronometry.Proofs.Binary64.Million
import Chronometry.Proofs.Binary64.Closeness
import Chronometry.Proofs.Quantity.Magnitude
import Chronometry.Proofs.Quantity.Position
import Chronometry.Proofs.Order.Projection
import Chronometry.Proofs.Order.Transitivity
import Chronometry.Proofs.DurationText.SmallLetters
import Chronometry.Proofs.DurationText.Beginning
import Chronometry.Text.Letter
import Chronometry.Proofs.Text.Runs
import Chronometry.Proofs.Binary64.Numeral
import Chronometry.Proofs.DurationText.Terms
import Chronometry.Proofs.DurationText.Counted
import Chronometry.Proofs.Duration.Milliseconds
import Chronometry.Proofs.Duration.Nanoseconds
import Chronometry.Proofs.Duration.Counts
import Chronometry.Proofs.Duration.ReadBack
import Chronometry.Proofs.DateText.Distance
import Chronometry.Proofs.DurationText.SharedSpelling
import Chronometry.Proofs.DurationText.TaggedText
import Chronometry.Proofs.Duration.Total
import Chronometry.Proofs.Quantity.ReadDuration
import Chronometry.Proofs.Duration.ExactSum
import Chronometry.Proofs.Duration.Embedding
import Chronometry.Proofs.Quantity.ShortCounts
import Chronometry.Proofs.Duration.ProjectedLength
import Chronometry.Proofs.Quantity.ProjectedCount
import Chronometry.Proofs.Duration.NearestNanosecond
import Chronometry.Proofs.Duration.Scaling
import Chronometry.Proofs.Instant.Millisecond
import Chronometry.Proofs.Coercion.DateText
import Chronometry.Proofs.Binary64.Separation
import Chronometry.Proofs.Binary64.Words
import Chronometry.Proofs.Quantity.CountedMagnitude
import Chronometry.Proofs.Quantity.CountsInWords
import Chronometry.Proofs.Quantity.CountOrder
import Chronometry.Proofs.Session.ManualClock
import Chronometry.Proofs.Duration.Quotient
import Chronometry.Proofs.DurationText.Grammar
import Chronometry.Proofs.Duration.Halfway
import Chronometry.Proofs.DurationText.WholeMilliseconds
import Chronometry.Proofs.DurationText.Overflow
import Chronometry.Proofs.DurationText.Characters
import Chronometry.Proofs.DurationText.LeadingSign
import Chronometry.Proofs.DateText.AbsoluteEnds
import Chronometry.Proofs.DateText.LowerCase
import Chronometry.Proofs.DateText.Disjoint
import Chronometry.Proofs.DateText.Frame
import Chronometry.Proofs.DateText.Phrasings
import Chronometry.Proofs.DateText.MonthName
import Chronometry.Proofs.DateText.WrittenLayout
import Chronometry.Proofs.DateText.CivilLayouts
import Chronometry.Proofs.Civil.Timeline
import Chronometry.Proofs.Civil.Months
import Chronometry.Proofs.Civil.Direction
import Chronometry.Proofs.DateText.NextDay
import Chronometry.Proofs.Duration.CivilDifference
import Chronometry.Proofs.Display.SameAmount
import Chronometry.Proofs.Display.WholeSeconds
import Chronometry.Proofs.Registry.Refusals
import Chronometry.Proofs.Registry.Assembly
import Chronometry.Proofs.Binary64.Overflow
import Chronometry.Proofs.Quantity.BaseMagnitude
import Chronometry.Proofs.Order.EitherSide
import Chronometry.Proofs.Display.ReadBack
import Chronometry.Proofs.Registry.KindTable
