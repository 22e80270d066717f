import BiblioQuery.Text.Run

/-!
# Table of ages

The age of a character is the version of the standard that assigned it first.  The ages of all code
points are written as runs: the number of code points in a row that share an age, and its
abbreviation, which is `na` for those that are not assigned and for surrogates.

A character of an age belongs to all later ages too: one asks for the characters that a version
has.

## Main definitions

* `Text.ageRuns` : the runs from the first code point to the last.
* `Text.ageNames` : the abbreviations of the ages from the oldest one on, with their numbers.
* `Text.ageRanges?` : the characters of the version with a given name.
-/

namespace BiblioQuery.Text

/-- The runs of code points with one age. -/
def ageRuns : List String :=
  ["502v11 4v30 30v11 8v30 1v32 1v40 18v30 3v40 11v41 14v50 89v11 5v30 2v40 47v11 1v30 10v11 5v30",
   "17v40 70v11 9v30 1v32 8v40 5v41 3v40 2v11 1v30 13v32 4v51 2v11 2v51 2na 1v11 3v50 1v11 1v70",
   "4na 7v11 1na 1v11 1na 20v11 1na 44v11 1v51 7v11 1v30 2v32 1v11 1v30 1v11 1v30 1v11 1v30 1v11",
   "1v30 18v11 2v31 1v32 5v40 4v41 1v30 12v11 1v30 66v11 1v30 12v11 1v30 41v11 1v51 2v30 2v32",
   "4v30 53v11 2v32 2v11 2v32 2v11 2v32 1v50 28v11 2v30 8v11 2v41 2v11 6v50 16v32 4v50 16v51 2v52",
   "2v60 8v70 1na 38v11 2na 7v11 1v110 39v11 1v110 1v11 1v30 2na 2v70 1v61 1na 17v20 1v41 13v20",
   "10v11 1v50 9v11 1v20 3v41 8na 27v11 4na 1v110 5v11 11na 4v40 1v61 1v70 5v51 1v41 1v11 9v40",
   "5v51 1v11 1v63 1v140 1v41 1v11 1v60 26v11 5v51 19v11 3v30 3v40 6v41 1v60 14v11 2v32 72v11",
   "2v30 5v11 1v30 15v11 1v30 30v11 2v40 10v11 5v30 1v40 14v30 1na 30v30 3v40 27v30 2na 3v40",
   "30v41 18v51 49v30 1v32 14na 59v50 2na 3v110 46v52 2na 15v52 1na 28v60 2na 1v60 1na 11v100 5na",
   "31v140 1na 2v140 5na 1v160 8v140 1v61 1v70 11v61 6v70 2v80 1v140 8v90 10v130 11v140 1v110",
   "15v90 1v80 27v61 1v70 1v52 3v11 1v40 53v11 2v60 18v11 1v52 1v60 5v11 1v52 2v60 25v11 2v51",
   "5v60 1v70 2v52 2v50 1v41 2v50 1v70 3v11 1na 8v11 2na 2v11 2na 22v11 1na 7v11 1na 1v11 3na",
   "4v11 2na 1v11 1v40 7v11 2na 2v11 2na 3v11 1v41 8na 1v11 4na 2v11 1na 5v11 2na 21v11 1v52",
   "2v100 1v110 2na 1v40 1v11 1v40 1na 6v11 4na 2v11 2na 22v11 1na 7v11 1na 2v11 1na 2v11 1na",
   "2v11 2na 1v11 1na 5v11 4na 2v11 2na 3v11 3na 1v51 7na 4v11 1na 1v11 7na 15v11 1v51 1v110 10na",
   "3v11 1na 7v11 1v40 1v11 1na 3v11 1na 22v11 1na 7v11 1na 2v11 1na 5v11 2na 10v11 1na 3v11 1na",
   "3v11 2na 1v11 15na 1v11 3v40 2na 10v11 1v61 1v40 7na 1v80 6v100 1na 3v11 1na 8v11 2na 2v11",
   "2na 22v11 1na 7v11 1na 2v11 1na 1v40 4v11 2na 8v11 1v51 2na 2v11 2na 3v11 7na 1v130 2v11 4na",
   "2v11 1na 3v11 2v51 2na 11v11 1v40 6v60 10na 2v11 1na 6v11 3na 3v11 1na 4v11 3na 2v11 1na 1v11",
   "1na 2v11 3na 2v11 3na 3v11 3na 8v11 1v41 3v11 4na 5v11 3na 3v11 1na 4v11 2na 1v51 6na 1v11",
   "14na 1v41 12v11 8v40 5na 1v70 3v11 1v110 8v11 1na 3v11 1na 23v11 1na 10v11 1v70 5v11 2na",
   "1v140 1v51 7v11 1na 3v11 1na 4v11 7na 2v11 1na 2v51 1v80 2na 1v140 2na 2v11 2v51 2na 10v11",
   "7na 1v120 8v51 1v90 1v70 2v11 1v110 8v11 1na 3v11 1na 23v11 1na 10v11 1na 5v11 2na 2v40 7v11",
   "1na 3v11 1na 4v11 7na 2v11 6na 1v140 1v11 1na 2v11 2v50 2na 10v11 1na 2v50 1v150 12na 1v100",
   "1v70 2v11 1v130 8v11 1na 3v11 1na 23v11 1v60 16v11 1v60 2v100 1v51 6v11 1v51 1na 3v11 1na",
   "4v11 1v60 1v90 4na 3v90 1v11 7v90 1v80 2v11 2v51 2na 10v11 6v51 3v90 7v51 1na 1v130 2v30 1na",
   "18v30 3na 24v30 1na 9v30 1na 1v30 2na 7v30 3na 1v30 4na 6v30 1na 1v30 1na 8v30 6na 10v70 2na",
   "3v30 12na 58v11 4na 29v11 37na 2v11 1na 1v11 1na 1v120 2v11 1v120 1v11 1na 1v120 1v11 6v120",
   "4v11 1v120 7v11 1v120 3v11 1na 1v11 1na 1v11 2v120 2v11 1v120 13v11 1v120 3v11 2na 5v11 1na",
   "1v11 1na 6v11 1v150 1na 10v11 2na 2v11 2v61 32na 72v20 1na 33v20 1v30 2v51 4na 27v20 4v60",
   "6v20 1v30 1v20 1na 21v20 3v30 7v20 1v30 1v20 3v30 1na 15v30 1na 1v51 1v30 2v41 3v51 4v52 2v60",
   "37na 34v30 1v51 5v30 1v51 2v30 1v51 7v30 3v51 4v30 6v51 26v30 64v51 4v52 2v51 38v11 1na 1v61",
   "5na 1v61 2na 39v11 2v32 2v41 1v11 1v41 3v61 90v11 5v52 68v11 5v52 82v11 6v52 7v30 1v41 63v30",
   "1v41 1v30 1na 4v30 2na 7v30 1na 1v30 1na 4v30 2na 39v30 1v41 1v30 1na 4v30 2na 31v30 1v41",
   "1v30 1na 4v30 2na 7v30 1na 1v30 1na 4v30 2na 7v30 1v41 7v30 1na 23v30 1v41 31v30 1v41 1v30",
   "1na 4v30 2na 7v30 1v41 39v30 1v41 19v30 2na 2v60 2v41 28v30 3na 26v41 6na 85v30 1v80 2na 6v80",
   "2na 1v52 630v30 9v52 29v30 3na 81v30 8v70 7na 13v32 1v140 7v32 1v140 9na 1v140 23v32 9na",
   "20v32 12na 13v32 1na 3v32 1na 2v32 12na 93v30 1v40 2na 10v30 6na 10v40 6na 15v30 1v140 10v30",
   "6na 88v30 1v110 7na 42v30 1v51 5na 70v52 10na 29v40 2v70 1na 12v40 4na 12v40 4na 1v40 3na",
   "42v40 2na 5v40 11na 42v41 2v52 4na 26v41 6na 10v41 1v52 3na 2v41 32v40 28v41 2na 2v41 63v52",
   "1na 29v52 2na 11v52 6na 10v52 6na 14v52 2na 15v70 2v130 14v140 49na 76v50 1v140 1na 2v160",
   "45v50 2v140 1v160 43v51 3v61 12v51 6v61 52v60 8na 4v60 56v51 3na 15v51 3na 51v51 9v90 2v160",
   "5na 43v110 2na 3v110 8v61 8na 35v52 4v61 1v100 2v70 1v120 5na 108v40 88v41 7v50 28v51 15v70",
   "4v100 1v140 1v90 1v60 1v52 2v50 155v11 1v20 4v51 90v11 6v51 22v11 2na 6v11 2na 38v11 2na 6v11",
   "2na 8v11 1na 1v11 1na 1v11 1na 1v11 1na 31v11 2na 53v11 1na 15v11 1na 14v11 2na 6v11 1na",
   "19v11 2na 3v11 1na 9v11 1na 47v11 1v30 23v11 1v32 6v30 5v32 2v40 2v41 1v32 7v41 5v32 1v51 1na",
   "4v63 7v11 1v32 2na 27v11 1na 5v41 8v60 3na 11v11 1v20 1v21 3v30 2v32 4v41 3v52 1v60 1v62 3v70",
   "1v80 1v100 1v140 15na 18v11 2v30 7v32 1v41 4v50 1v51 15na 57v11 2v30 1v40 1v41 15v32 1v41",
   "2v50 1v51 3v52 48v11 1v30 1v50 4v51 1v52 2v80 4na 91v11 9v30 12v32 242v11 14v32 1v11 1v30",
   "121v11 1v30 1v32 30v30 52v32 2v40 11v41 12v50 1v52 11v60 7v70 4v90 1v100 37v11 2v30 3v160",
   "22na 11v11 21na 139v11 20v32 1v40 150v11 10v32 80v11 8v30 8v32 20v11 2v40 2v32 1v41 1v30",
   "86v11 2v30 12v32 2v41 10v32 8v40 11v41 1v51 2v52 2v40 16v41 1v50 10v51 3v52 4v51 10v52 1v60",
   "19v52 1v60 1v52 4v60 24v52 1v70 4v11 1v60 4v11 2v60 28v11 1v60 35v11 1v60 1v11 1v60 4v11 3v60",
   "1v11 1v52 7v11 2v60 7v11 14v32 31v11 3v60 24v11 1v60 14v11 1v60 7v41 4v50 1v61 1v51 1v61 2v60",
   "28v32 4v51 16v32 256v30 512v32 14v40 6v41 7v50 5v51 4v50 41v51 3v70 5v51 5v52 26v70 2na 32v70",
   "1na 1v130 34v70 3v110 12v70 1v120 8v70 1v100 25v110 4v80 15v110 1v120 47v41 1v140 47v41 1v140",
   "13v50 3v51 1v52 3v51 4v50 6v51 2v52 107v41 7v52 2v61 5na 45v41 1na 1v61 5na 1v61 2na 54v41",
   "2v61 7na 1v41 1v60 14na 1v60 23v41 9na 7v41 1na 7v41 1na 7v41 1na 7v41 1na 7v41 1na 7v41 1na",
   "7v41 1na 7v41 1na 32v51 24v41 4v51 2v41 19v51 1v52 10v61 7v70 2v90 5v100 5v110 1v120 3v130",
   "11v140 34na 26v30 1na 89v30 12na 214v30 26na 12v30 4v151 56v11 3v30 3v32 1v30 1v11 1na 84v11",
   "2v32 2na 6v11 2v32 94v11 1v32 5na 40v11 1v51 1v100 1v110 1na 94v11 1na 16v11 24v30 3v60 5v130",
   "16v41 20v51 2v160 9na 1v151 16v32 29v11 2v40 1na 36v11 12v52 1v40 15v32 28v11 2v40 1v41 50v11",
   "15v32 12v11 4v40 47v11 1v121 119v11 4v40 99v11 2v40 31v11 1v40 6582v30 10v130 64v40 20902v11",
   "22v41 8v51 8v52 1v61 9v80 21v100 5v110 13v130 3v140 1165v30 3na 18v30 2v32 16v30 1v32 12v30",
   "1v32 3v30 1v32 1v30 9na 48v52 300v51 20na 32v51 2v60 18v51 8v61 28v51 6v70 1v80 1v61 88v52",
   "8na 23v41 4v50 5v51 2v50 107v51 2v60 1v80 2v60 2v61 12v70 10v60 1v61 3v70 1v90 1v110 2v70",
   "6v80 2v110 6v120 2v140 5v120 4v130 3v160 2na 2v140 1na 1v140 1na 5v140 3v160 21na 3v140 2v130",
   "1v70 2v61 1v60 5v51 44v41 1v130 3na 10v52 6na 56v50 8na 69v51 1v90 8na 12v51 6na 28v52 2v80",
   "2v110 84v51 11na 1v51 29v52 3na 78v52 1na 11v52 4na 2v52 31v70 1na 55v51 9na 14v51 2na 10v51",
   "2na 4v51 28v52 4v70 67v52 24na 5v52 23v61 10na 6v60 2na 6v60 2na 6v60 9na 7v60 1na 7v60 1na",
   "48v70 4v80 2v70 2v120 4v130 4na 80v80 46v52 2na 10v52 6na 11172v20 12na 23v52 4na 49v52",
   "2052na 6702v11 2v61 59v32 3v52 2na 106v41 38na 7v11 12na 5v11 5na 1v30 25v11 1na 5v11 1na",
   "1v11 1na 2v11 1na 2v11 1na 108v11 16v60 1v140 16na 365v11 16v140 64v11 2na 54v11 7na 1v140",
   "32v31 12v11 1v32 1v40 2v140 16v32 10v41 6na 4v11 3v51 7v70 2v80 21v11 2v32 2v40 10v11 1na",
   "19v11 1na 4v11 4na 3v11 1v32 1v11 1na 135v11 2na 1v11 1na 94v11 2v32 94v11 3na 6v11 2na 6v11",
   "2na 6v11 2na 3v11 3na 7v11 1na 7v11 10na 3v30 1v21 3v11 12v40 1na 26v40 1na 19v40 1na 2v40",
   "1na 15v40 2na 14v40 34na 123v40 5na 3v40 4na 45v40 3na 9v40 75v41 2v70 2v90 1na 12v51 1v130",
   "3na 1v70 47na 46v51 130na 29v51 3na 49v51 15na 28v70 4na 31v31 1v70 4v31 9na 3v100 27v31 5na",
   "43v70 5na 30v40 1na 1v40 36v41 4na 14v41 42na 38v31 2v40 38v31 80v40 2na 10v40 6na 36v90 4na",
   "36v90 4na 40v70 8na 52v70 11na 1v70 11v140 1na 15v140 1na 7v140 1na 2v140 1na 11v140 1na",
   "15v140 1na 7v140 1na 2v140 3na 52v160 12na 311v70 9na 22v70 10na 8v70 24na 6v140 1na 42v140",
   "1na 9v140 69na 6v40 2na 1v40 1na 44v40 1na 2v40 3na 1v40 2na 1v40 22v52 1na 9v52 63v70 8na",
   "9v70 48na 19v80 1na 2v80 5na 5v80 26v50 2v52 3na 1v50 26v51 5na 1v51 64na 56v61 4na 2v80 2v61",
   "16v80 2na 46v80 4v41 1na 2v41 5na 8v41 1na 3v41 1na 27v41 2v110 2na 3v41 4na 9v41 1v110 7na",
   "9v41 7na 32v52 32v70 32na 39v70 4na 12v70 9na 54v52 3na 29v52 2na 27v52 5na 8v52 18v70 7na",
   "4v70 12na 7v70 80na 73v52 55na 51v80 13na 51v80 7na 6v80 40v110 8na 10v110 6na 38v160 3na",
   "29v160 8na 2v160 208na 31v52 1na 42v130 1na 3v130 2na 2v130 16na 3v160 55na 1v160 3v150",
   "40v110 8na 42v110 22na 26v140 38na 28v130 20na 23v120 9na 78v60 4na 30v60 6v140 9na 1v70",
   "66v52 1v140 10na 1v110 2na 25v61 7na 10v61 6na 53v61 1na 14v61 3v110 1v130 8na 39v70 9na",
   "73v61 4v80 1v70 2v130 10v61 1v70 5v80 1na 20v70 11na 18v70 1na 43v70 1v90 3v150 62na 7v80 1na",
   "1v80 1na 4v80 1na 15v80 1na 11v80 6na 59v70 5na 10v70 6na 1v80 3v70 1na 8v70 2na 2v70 2na",
   "22v70 1na 7v70 1na 2v70 1na 5v70 1na 1v110 9v70 2na 2v70 2na 3v70 2na 1v80 6na 1v70 5na 7v70",
   "2na 7v70 3na 5v70 11na 10v160 1na 1v160 2na 1v160 1na 38v160 1na 10v160 1na 1v160 2na 1v160",
   "1na 4v160 1na 10v160 1na 2v160 8na 2v160 29na 90v90 1v130 1v90 1na 1v90 1v110 1v120 2v130",
   "30na 72v70 8na 10v70 166na 54v70 2na 18v70 20v80 34na 69v70 11na 10v70 6na 13v90 19na 56v61",
   "1v120 1v140 6na 10v61 6na 20v160 28na 26v80 1v110 2na 15v80 4na 16v80 7v140 185na 60v110",
   "100na 83v70 12na 1v70 7v130 2na 1v130 2na 8v130 1na 2v130 1na 30v130 1na 2v130 2na 12v130 9na",
   "10v130 70na 8v120 2na 46v120 2na 11v120 27na 72v100 8na 52v100 2v120 23v100 1v110 5v100 13na",
   "16v140 57v70 7na 10v150 182na 34v160 14na 10v160 6na 9v90 1na 45v90 1na 14v90 10na 29v90 3na",
   "32v90 2na 22v90 1na 14v90 73na 7v100 1na 2v100 1na 44v100 3na 1v100 1na 2v100 1na 9v100 8na",
   "10v100 6na 6v110 1na 2v110 1na 37v110 1na 2v110 1na 6v110 7na 10v110 310na 25v110 7na 17v150",
   "1na 41v150 3na 28v150 1v160 85na 1v130 15na 50v120 13na 1v120 879v50 42v70 1v80 102na 99v50",
   "12v70 1na 4v50 1v70 11na 196v80 2636na 99v140 13na 1071v52 1v150 9v120 29v150 10na 3995v160",
   "5na 583v80 6841na 58v160 1734na 569v60 7na 31v70 1na 10v70 4na 2v70 79v140 1na 10v140 6na",
   "30v70 2na 6v70 10na 70v70 10na 10v70 1na 7v70 1na 21v70 5na 19v70 432na 58v160 198na 91v110",
   "101na 69v61 6v120 4na 1v120 47v61 9v120 7na 17v61 64na 1v90 1v100 2v120 1v130 11na 2v130 14na",
   "6125v90 5v110 6v120 8na 755v90 483v130 41na 1v160 9v130 8935na 4v140 1na 7v140 1na 2v140 1na",
   "2v60 285v100 4v140 15na 1v150 29na 3v120 2na 1v150 14na 4v120 8na 396v100 2308na 107v70 5na",
   "13v70 3na 9v70 7na 10v70 2na 8v70 3932na 250v160 6na 436v160 76na 46v140 2na 23v140 9na",
   "116v140 60na 246v31 10na 39v31 2na 1v51 180v31 11v80 2v140 21na 70v41 122na 20v150 12na",
   "20v110 12na 87v40 9na 18v50 7v110 135na 85v31 1na 71v31 1na 2v31 2na 1v31 2na 2v31 2na 4v31",
   "1na 12v31 1na 1v31 1na 4v31 1v40 2v31 1na 65v31 1na 4v31 2na 8v31 1na 7v31 1na 28v31 1na 4v31",
   "1na 5v31 1na 1v31 3na 7v31 1na 338v31 2v41 2na 290v31 2v50 2na 50v31 652v80 15na 5v80 1na",
   "15v80 1104na 31v140 6na 6v150 213na 7v90 1na 17v90 2na 7v90 1na 2v90 1na 5v90 5na 62v150 33na",
   "1v150 112na 45v120 3na 14v120 2na 10v120 4na 2v120 320na 31v140 17na 58v120 5na 1v120 464na",
   "42v150 214na 43v160 4na 1v160 480na 7v140 1na 4v140 1na 2v140 1na 15v140 1na 197v70 2na 16v70",
   "41na 75v90 1v120 4na 10v90 4na 2v90 785na 68v110 76na 61v120 194na 4v61 1na 27v61 1na 2v61",
   "1na 1v61 2na 1v61 1na 10v61 1na 4v61 1na 1v61 1na 1v61 6na 1v61 4na 1v61 1na 1v61 1na 1v61",
   "1na 3v61 1na 2v61 1na 1v61 2na 1v61 1na 1v61 1na 1v61 1na 1v61 1na 1v61 1na 2v61 1na 1v61 2na",
   "4v61 1na 7v61 1na 4v61 1na 4v61 1na 1v61 1na 10v61 1na 17v61 5na 3v61 1na 5v61 1na 17v61 52na",
   "2v61 270na 44v51 4na 100v51 12na 15v60 2na 14v60 1v70 1na 15v60 1na 15v60 22v70 10na 11v52",
   "2v70 3v130 31v52 1v110 1v60 1v52 11v60 1v52 1v60 1v52 2v60 1v52 3v60 1v52 3v60 5v52 8v60 1v52",
   "7v60 1v52 10v60 2v61 1v120 3v130 9v60 1v52 1v60 2v52 2v60 1v52 10v60 4v52 2v60 1v52 10v60",
   "18v90 1v130 56na 26v60 1v52 2v60 13na 34v52 9v60 1v90 4na 9v52 7na 2v60 14na 6v100 154na",
   "33v60 12v70 3v80 6v60 1v70 70v60 1v70 2v80 20v60 12v70 37v60 1v70 5v60 4v70 5v80 12v70 17v60",
   "7v70 8v80 63v60 1v70 1v60 1v70 182v60 1v70 4v60 2v70 1v80 62v60 2v70 4v61 7v70 5v80 24v60",
   "18v70 1v90 41v70 1v90 86v70 5v60 1v61 16v60 1v61 3v60 1v61 1v60 1v61 1v60 1v61 1v60 1v61 3v60",
   "1v61 6v60 2v61 4v60 1v61 1v60 2v61 4v60 1v61 12v60 2v70 2v80 11v60 48v70 70v60 10v70 1v80",
   "2v90 2v100 1v120 2v130 4na 1v150 3v140 13v70 3na 4v70 3v90 2v100 1v110 1v120 2v130 3na 116v60",
   "3v150 4na 5v150 85v70 4v110 1v150 6na 12v120 4na 1v140 15na 12v70 4na 56v70 8na 10v70 6na",
   "40v70 8na 30v70 2na 2v130 10v160 4na 2v160 62na 12v100 1v130 3v120 9v80 6v90 1v100 8v90 8v100",
   "1v90 2v100 12v90 1v120 12v90 1v100 3v110 15v90 13v100 5v110 1v120 1v130 4v110 2v130 1v140",
   "1v110 1v120 4v110 5v80 13v90 6v100 11v110 2v130 6v120 3v130 2v120 10v110 6v120 1v80 2v110",
   "8v120 1v130 1v140 3v120 23v100 25v110 84v120 12na 14v110 2na 4v120 1v130 3v150 3v120 2v140",
   "3na 3v120 4v130 2v150 1v160 5na 1v160 6v120 19v130 4v140 3v150 7v130 4v140 3v150 1v160 1v150",
   "3v130 3v140 1v160 7na 2v150 7v130 3v140 2v150 1v160 2na 1v160 8v140 1v150 1v160 6na 7v140",
   "2v150 7na 147v130 1na 55v130 37v160 10v130 1028na 2v20 42711v31 7v130 2v140 32na 4149v52",
   "4v140 1v150 6na 222v60 2na 5762v80 14na 7473v100 15na 622v151 2466na 542v31 1504na 2v20",
   "4939v130 5na 4192v150 56398na 2v20 65534na 2v20 65534na 2v20 65534na 2v20 65534na 2v20",
   "65534na 2v20 65534na 2v20 65534na 2v20 65534na 2v20 65534na 2v20 65534na 2v20 1na 1v31 30na",
   "96v31 128na 240v40 65038na 131074v20"]

/-- The ages, the oldest one first: their abbreviations, and the numbers of the versions. -/
def ageNames : List (String × String) :=
  [("v11", "1.1"), ("v20", "2.0"), ("v21", "2.1"), ("v30", "3.0"), ("v31", "3.1"), ("v32", "3.2"),
   ("v40", "4.0"), ("v41", "4.1"), ("v50", "5.0"), ("v51", "5.1"), ("v52", "5.2"), ("v60", "6.0"),
   ("v61", "6.1"), ("v62", "6.2"), ("v63", "6.3"), ("v70", "7.0"), ("v80", "8.0"), ("v90", "9.0"),
   ("v100", "10.0"), ("v110", "11.0"), ("v120", "12.0"), ("v121", "12.1"), ("v130", "13.0"),
   ("v140", "14.0"), ("v150", "15.0"), ("v151", "15.1"), ("v160", "16.0")]

/-- The characters that the version with the given name has: those of its age and of all ages before
it. -/
def ageRanges? (name : String) : Option (List (Nat × Nat)) :=
  (ageNames.findIdx? fun e => e.1 == name || e.2 == name).map fun i =>
    runRanges (((ageNames.take (i + 1)).map Prod.fst).contains ·) ageRuns

end BiblioQuery.Text
