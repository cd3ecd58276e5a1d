import WifiLink.Sweep.Basic
import WifiLink.Text.Csv

/-!
The rows of a sweep as a table of texts: decibels to two places, probabilities to six digits.
-/

namespace WifiLink

namespace SweepRow

/-- The cells of a row; without a success probability the last one is empty. -/
def cells (row : SweepRow Float) : List String :=
  [ row.mode, Decimal.fixed 2 row.decibels, Decimal.general 6 row.errorRate,
    (row.success.map (Decimal.general 6)).getD "" ]

def header : List String := ["mode", "snr_db", "ber", "success_probability"]

def table (rows : List (SweepRow Float)) : List (List String) := header :: rows.map cells

def csv (rows : List (SweepRow Float)) : String := Text.csv (table rows)

end SweepRow

end WifiLink
