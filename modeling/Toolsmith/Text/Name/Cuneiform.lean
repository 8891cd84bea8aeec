/-
The names of cuneiform and hieroglyphs
(Unicode 14).
-/
import Toolsmith.Text.Name.Block

namespace Toolsmith.Text.NameBlock

/-- The names from U+12001 to U+14646. -/
def cuneiform : List NameBlock :=
  [
    ⟨0x12001, "CUNEIFORM SIGN A TIMES",
      ["A/BAD/GAN2 TENU/HA/IGI/LAGAR GUNU/MUSH/SAG"]⟩,
    ⟨0x12009, "CUNEIFORM SIGN", ["A2/AB"]⟩,
    ⟨0x1200b, "CUNEIFORM SIGN AB TIMES",
      ["ASH2/DUN3 GUNU/GAL/GAN2 TENU/HA/IGI GUNU/IMIN/LAGAB/SHESH/",
       "U PLUS U PLUS U"]⟩,
    ⟨0x12015, "CUNEIFORM SIGN",
      ["AB GUNU/AB2/AB2 TIMES BALAG/AB2 TIMES GAN2 TENU/AB2 TIMES ME PLUS EN/",
       "AB2 TIMES SHA3/AB2 TIMES TAK4/AD/AK/AK TIMES ERIN2/",
       "AK TIMES SHITA PLUS GISH/AL/AL TIMES AL/AL TIMES DIM2/AL TIMES GISH/",
       "AL TIMES HA/AL TIMES KAD3/AL TIMES KI/AL TIMES SHE/AL TIMES USH/ALAN/",
       "ALEPH/AMAR/AMAR TIMES SHE/AN/AN OVER AN/AN THREE TIMES/",
       "AN PLUS NAGA OPPOSING AN PLUS NAGA/AN PLUS NAGA SQUARED/ANSHE/APIN/ARAD/",
       "ARAD TIMES KUR/ARKAB/ASAL2/ASH/ASH ZIDA TENU/ASH KABA TENU/",
       "ASH OVER ASH TUG2 OVER TUG2 TUG2 OVER TUG2 PAP/ASH OVER ASH OVER ASH/",
       "ASH OVER ASH OVER ASH CROSSING ASH OVER ASH OVER ASH/ASH2/ASHGAB/BA/BAD/",
       "BAG3/BAHAR2/BAL/BAL OVER BAL/BALAG/BAR/BARA2/BI/BI TIMES A/BI TIMES GAR/",
       "BI TIMES IGI GUNU/BU/BU OVER BU AB/BU OVER BU UN/BU CROSSING BU/BULUG/",
       "BULUG OVER BULUG/BUR/BUR2/DA/DAG"]⟩,
    ⟨0x12057, "CUNEIFORM SIGN DAG KISIM5 TIMES",
      ["A PLUS MASH/AMAR/BALAG/BI/GA/GA PLUS MASH/GI/GIR2/GUD/HA/IR/IR PLUS LU/",
       "KAK/LA/LU/LU PLUS MASH2/LUM/NE/PAP PLUS PAP/SI/TAK4/U2 PLUS GIR2/USH"]⟩,
    ⟨0x1206e, "CUNEIFORM SIGN",
      ["DAM/DAR/DARA3/DARA4/DI/DIB/DIM/DIM TIMES SHE/DIM2/DIN/",
       "DIN KASKAL U GUNU DISH/DISH/DU/DU OVER DU/DU GUNU/DU SHESHIG/DUB/",
       "DUB TIMES ESH2/DUB2/DUG/DUGUD/DUH/DUN/DUN3/DUN3 GUNU/DUN3 GUNU GUNU/",
       "DUN4/DUR2/E/E TIMES PAP/E OVER E NUN OVER NUN/E2/",
       "E2 TIMES A PLUS HA PLUS DA/E2 TIMES GAR/E2 TIMES MI/E2 TIMES SAL/",
       "E2 TIMES SHE/E2 TIMES U/EDIN/EGIR/EL/EN/EN TIMES GAN2/",
       "EN TIMES GAN2 TENU/EN TIMES ME/EN CROSSING EN/EN OPPOSING EN/EN SQUARED/",
       "EREN/ERIN2/ESH2/EZEN"]⟩,
    ⟨0x120a2, "CUNEIFORM SIGN EZEN TIMES",
      ["A/A PLUS LAL/A PLUS LAL TIMES LAL/AN/BAD/DUN3 GUNU/DUN3 GUNU GUNU/HA/",
       "HA GUNU/IGI GUNU/KASKAL/KASKAL SQUARED/KU3/LA/LAL TIMES LAL/LI/LU/U2/UD"]⟩,
    ⟨0x120b5, "CUNEIFORM SIGN", ["GA/GA GUNU/GA2"]⟩,
    ⟨0x120b8, "CUNEIFORM SIGN GA2 TIMES",
      ["A PLUS DA PLUS HA/A PLUS HA/A PLUS IGI/AB2 TENU PLUS TAB/AN/ASH/",
       "ASH2 PLUS GAL/BAD/BAR PLUS RA/BUR/BUR PLUS RA/DA/DI/DIM TIMES SHE/DUB/",
       "EL/EL PLUS LA/EN/EN TIMES GAN2 TENU/GAN2 TENU/GAR/GI/GI4/GI4 PLUS A/",
       "GIR2 PLUS SU/HA PLUS LU PLUS ESH2/HAL/HAL PLUS LA/HI PLUS LI/HUB2/",
       "IGI GUNU/ISH PLUS HU PLUS ASH/KAK/KASKAL/KID/KID PLUS LAL/KU3 PLUS AN/",
       "LA/ME PLUS EN/MI/NUN/NUN OVER NUN/PA/SAL/SAR/SHE/SHE PLUS TUR/SHID/SUM/",
       "TAK4/U/UD/UD PLUS DU"]⟩,
    ⟨0x120ed, "CUNEIFORM SIGN",
      ["GA2 OVER GA2/GABA/GABA CROSSING GABA/GAD/GAD OVER GAD GAR OVER GAR/GAL/",
       "GAL GAD OVER GAD GAR OVER GAR/GALAM/GAM/GAN/GAN2/GAN2 TENU/",
       "GAN2 OVER GAN2/GAN2 CROSSING GAN2/GAR/GAR3/GASHAN/GESHTIN/",
       "GESHTIN TIMES KUR/GI/GI TIMES E/GI TIMES U/GI CROSSING GI/GI4/",
       "GI4 OVER GI4/GI4 CROSSING GI4/GIDIM/GIR2/GIR2 GUNU/GIR3/",
       "GIR3 TIMES A PLUS IGI/GIR3 TIMES GAN2 TENU/GIR3 TIMES IGI/",
       "GIR3 TIMES LU PLUS IGI/GIR3 TIMES PA/GISAL/GISH/GISH CROSSING GISH/",
       "GISH TIMES BAD/GISH TIMES TAK4/GISH TENU/GU/GU CROSSING GU/GU2/",
       "GU2 TIMES KAK/GU2 TIMES KAK TIMES IGI GUNU/GU2 TIMES NUN/",
       "GU2 TIMES SAL PLUS TUG2/GU2 GUNU/GUD/GUD TIMES A PLUS KUR/GUD TIMES KUR/",
       "GUD OVER GUD LUGAL/GUL/GUM/GUM TIMES SHE/GUR/GUR7/GURUN/GURUSH/HA/",
       "HA TENU/HA GUNU/HAL/HI"]⟩,
    ⟨0x1212e, "CUNEIFORM SIGN HI TIMES",
      ["ASH/ASH2/BAD/DISH/GAD/KIN/NUN/SHE/U"]⟩,
    ⟨0x12137, "CUNEIFORM SIGN",
      ["HU/HUB2/HUB2 TIMES AN/HUB2 TIMES HAL/HUB2 TIMES KASKAL/HUB2 TIMES LISH/",
       "HUB2 TIMES UD/HUL2/I/I A/IB/IDIM/IDIM OVER IDIM BUR/",
       "IDIM OVER IDIM SQUARED/IG/IGI/IGI DIB/IGI RI/",
       "IGI OVER IGI SHIR OVER SHIR UD OVER UD/IGI GUNU/IL/IL TIMES GAN2 TENU/",
       "IL2/IM/IM TIMES TAK4/IM CROSSING IM/IM OPPOSING IM/IM SQUARED/IMIN/IN/",
       "IR/ISH/KA"]⟩,
    ⟨0x12158, "CUNEIFORM SIGN KA TIMES",
      ["A/AD/AD PLUS KU3/ASH2/BAD/BALAG/BAR/BI/ERIN2/ESH2/GA/GAL/GAN2 TENU/GAR/",
       "GAR PLUS SHA3 PLUS A/GI/GIR2/GISH PLUS SAR/GISH CROSSING GISH/GU/GUR7/",
       "IGI/IM/KAK/KI/KID/LI/LU/ME/ME PLUS DU/ME PLUS GI/ME PLUS TE/MI/",
       "MI PLUS NUNUZ/NE/NUN/PI/RU/SA/SAR/SHA/SHE/SHID/SHU/SIG/SUHUR/TAR/U/U2/",
       "UD/UMUM TIMES PA/USH/ZI"]⟩,
    ⟨0x1218d, "CUNEIFORM SIGN",
      ["KA2/KA2 CROSSING KA2/KAB/KAD2/KAD3/KAD4/KAD5/KAD5 OVER KAD5/KAK/",
       "KAK TIMES IGI GUNU/KAL/KAL TIMES BAD/KAL CROSSING KAL/KAM2/KAM4/KASKAL/",
       "KASKAL LAGAB TIMES U OVER LAGAB TIMES U/",
       "KASKAL OVER KASKAL LAGAB TIMES U OVER LAGAB TIMES U/KESH2/KI/",
       "KI TIMES BAD/KI TIMES U/KI TIMES UD/KID/KIN/KISAL/KISH/KISIM5/",
       "KISIM5 OVER KISIM5/KU/KU OVER HI TIMES ASH2 KU OVER HI TIMES ASH2/KU3/",
       "KU4/KU4 VARIANT FORM/KU7/KUL/KUL GUNU/KUN/KUR/KUR OPPOSING KUR/KUSHU2/",
       "KWU318/LA/LAGAB"]⟩,
    ⟨0x121b9, "CUNEIFORM SIGN LAGAB TIMES",
      ["A/A PLUS DA PLUS HA/A PLUS GAR/A PLUS LAL/AL/AN/ASH ZIDA TENU/BAD/BI/",
       "DAR/EN/GA/GAR/GUD/GUD PLUS GUD/HA/HAL/HI TIMES NUN/IGI GUNU/IM/",
       "IM PLUS HA/IM PLUS LU/KI/KIN/KU3/KUL/KUL PLUS HI PLUS A/LAGAB/LISH/LU/",
       "LUL/ME/ME PLUS EN/MUSH/NE/SHE PLUS SUM/SHITA PLUS GISH PLUS ERIN2/",
       "SHITA PLUS GISH TENU/SHU2/SHU2 PLUS SHU2/SUM/TAG/TAK4/",
       "TE PLUS A PLUS SU PLUS NA/U/U PLUS A/U PLUS U PLUS U/U2 PLUS ASH/UD/USH"]⟩,
    ⟨0x121eb, "CUNEIFORM SIGN",
      ["LAGAB SQUARED/LAGAR/LAGAR TIMES SHE/LAGAR TIMES SHE PLUS SUM/LAGAR GUNU/",
       "LAGAR GUNU OVER LAGAR GUNU SHE/LAHSHU/LAL/LAL TIMES LAL/LAM/",
       "LAM TIMES KUR/LAM TIMES KUR PLUS RU/LI/LIL/LIMMU2/LISH/LU/LU TIMES BAD/",
       "LU2"]⟩,
    ⟨0x121fe, "CUNEIFORM SIGN LU2 TIMES",
      ["AL/BAD/ESH2/ESH2 TENU/GAN2 TENU/HI TIMES BAD/IM/KAD2/KAD3/KAD3 PLUS ASH/",
       "KI/LA PLUS ASH/LAGAB/ME PLUS EN/NE/NU/SI PLUS ASH/SIK2 PLUS BU/TUG2"]⟩,
    ⟨0x12211, "CUNEIFORM SIGN",
      ["LU2 TENU/LU2 CROSSING LU2/LU2 OPPOSING LU2/LU2 SQUARED/LU2 SHESHIG/LU3/",
       "LUGAL/LUGAL OVER LUGAL/LUGAL OPPOSING LUGAL/LUGAL SHESHIG/LUH/LUL/LUM/",
       "LUM OVER LUM/LUM OVER LUM GAR OVER GAR/MA/MA TIMES TAK4/MA GUNU/MA2/MAH/",
       "MAR/MASH/MASH2/ME/MES/MI/MIN/MU/MU OVER MU/MUG/MUG GUNU/MUNSUB/MURGU2/",
       "MUSH/MUSH TIMES A/MUSH TIMES KUR/MUSH TIMES ZA/MUSH OVER MUSH/",
       "MUSH OVER MUSH TIMES A PLUS NA/MUSH CROSSING MUSH/MUSH3/MUSH3 TIMES A/",
       "MUSH3 TIMES A PLUS DI/MUSH3 TIMES DI/MUSH3 GUNU/NA/NA2/NAGA/",
       "NAGA INVERTED/NAGA TIMES SHU TENU/NAGA OPPOSING NAGA/NAGAR/NAM NUTILLU/",
       "NAM/NAM2/NE/NE TIMES A/NE TIMES UD/NE SHESHIG/NI/NI TIMES E/NI2/NIM/",
       "NIM TIMES GAN2 TENU/NIM TIMES GAR PLUS GAN2 TENU/NINDA2"]⟩,
    ⟨0x12253, "CUNEIFORM SIGN NINDA2 TIMES",
      ["AN/ASH/ASH PLUS ASH/GUD/ME PLUS GAN2 TENU/NE/NUN/SHE/SHE PLUS A AN/",
       "SHE PLUS ASH/SHE PLUS ASH PLUS ASH/U2 PLUS ASH/USH"]⟩,
    ⟨0x12260, "CUNEIFORM SIGN",
      ["NISAG/NU/NU11/NUN/NUN LAGAR TIMES GAR/NUN LAGAR TIMES MASH/",
       "NUN LAGAR TIMES SAL/NUN LAGAR TIMES SAL OVER NUN LAGAR TIMES SAL/",
       "NUN LAGAR TIMES USH/NUN TENU/NUN OVER NUN/NUN CROSSING NUN/",
       "NUN CROSSING NUN LAGAR OVER LAGAR/NUNUZ"]⟩,
    ⟨0x1226e, "CUNEIFORM SIGN NUNUZ AB2 TIMES",
      ["ASHGAB/BI/DUG/GUD/IGI GUNU/KAD3/LA/NE/SILA3/U2"]⟩,
    ⟨0x12278, "CUNEIFORM SIGN",
      ["NUNUZ KISIM5 TIMES BI/NUNUZ KISIM5 TIMES BI U/PA/PAD/PAN/PAP/PESH2/PI"]⟩,
    ⟨0x12280, "CUNEIFORM SIGN PI TIMES", ["A/AB/BI/BU/E/I/IB/U/U2"]⟩,
    ⟨0x12289, "CUNEIFORM SIGN",
      ["PI CROSSING PI/PIRIG/PIRIG TIMES KAL/PIRIG TIMES UD/PIRIG TIMES ZA/",
       "PIRIG OPPOSING PIRIG/RA/RAB/RI/RU/SA/SAG NUTILLU/SAG"]⟩,
    ⟨0x12296, "CUNEIFORM SIGN SAG TIMES",
      ["A/DU/DUB/HA/KAK/KUR/LUM/MI/NUN/SAL/SHID/TAB/U2/UB/UM/UR/USH"]⟩,
    ⟨0x122a7, "CUNEIFORM SIGN",
      ["SAG OVER SAG/SAG GUNU/SAL/SAL LAGAB TIMES ASH2/SANGA2/SAR/SHA/SHA3"]⟩,
    ⟨0x122af, "CUNEIFORM SIGN SHA3 TIMES",
      ["A/BAD/GISH/NE/SHU2/TUR/U/U PLUS A"]⟩,
    ⟨0x122b7, "CUNEIFORM SIGN",
      ["SHA6/SHAB6/SHAR2/SHE/SHE HU/SHE OVER SHE GAD OVER GAD GAR OVER GAR/",
       "SHE OVER SHE TAB OVER TAB GAR OVER GAR/SHEG9/SHEN/SHESH/SHESH2/SHESHLAM/",
       "SHID/SHID TIMES A/SHID TIMES IM/SHIM"]⟩,
    ⟨0x122c7, "CUNEIFORM SIGN SHIM TIMES",
      ["A/BAL/BULUG/DIN/GAR/IGI/IGI GUNU/KUSHU2/LUL/MUG/SAL"]⟩,
    ⟨0x122d2, "CUNEIFORM SIGN",
      ["SHINIG/SHIR/SHIR TENU/SHIR OVER SHIR BUR OVER BUR/SHITA/SHU/",
       "SHU OVER INVERTED SHU/SHU2/SHUBUR/SI/SI GUNU/SIG/SIG4/",
       "SIG4 OVER SIG4 SHU2/SIK2/SILA3/SU/SU OVER SU/SUD/SUD2/SUHUR/SUM/SUMASH/",
       "SUR/SUR9/TA/TA ASTERISK/TA TIMES HI/TA TIMES MI/TA GUNU/TAB/",
       "TAB OVER TAB NI OVER NI DISH OVER DISH/TAB SQUARED/TAG/TAG TIMES BI/",
       "TAG TIMES GUD/TAG TIMES SHE/TAG TIMES SHU/TAG TIMES TUG2/TAG TIMES UD/",
       "TAK4/TAR/TE/TE GUNU/TI/TI TENU/TIL/TIR/TIR TIMES TAK4/TIR OVER TIR/",
       "TIR OVER TIR GAD OVER GAD GAR OVER GAR/TU/TUG2/TUK/TUM/TUR/",
       "TUR OVER TUR ZA OVER ZA/U/U GUD/U U U/U OVER U PA OVER PA GAR OVER GAR/",
       "U OVER U SUR OVER SUR/U OVER U U REVERSED OVER U REVERSED/U2/UB/UD/",
       "UD KUSHU2/UD TIMES BAD/UD TIMES MI/UD TIMES U PLUS U PLUS U/",
       "UD TIMES U PLUS U PLUS U GUNU/UD GUNU/UD SHESHIG/UD SHESHIG TIMES BAD/",
       "UDUG/UM/UM TIMES LAGAB/UM TIMES ME PLUS DA/UM TIMES SHA3/UM TIMES U/",
       "UMBIN/UMUM/UMUM TIMES KASKAL/UMUM TIMES PA/UN/UN GUNU/UR/UR CROSSING UR/",
       "UR SHESHIG/UR2/UR2 TIMES A PLUS HA/UR2 TIMES A PLUS NA/UR2 TIMES AL/",
       "UR2 TIMES HA/UR2 TIMES NUN/UR2 TIMES U2/UR2 TIMES U2 PLUS ASH/",
       "UR2 TIMES U2 PLUS BI/UR4/URI/URI3/URU"]⟩,
    ⟨0x12338, "CUNEIFORM SIGN URU TIMES",
      ["A/ASHGAB/BAR/DUN/GA/GAL/GAN2 TENU/GAR/GU/HA/IGI/IM/ISH/KI/LUM/MIN/PA/",
       "SHE/SIG4/TU/U PLUS GUD/UD/URUDA"]⟩,
    ⟨0x1234f, "CUNEIFORM SIGN",
      ["URUDA/URUDA TIMES U/USH/USH TIMES A/USH TIMES KU/USH TIMES KUR/",
       "USH TIMES TAK4/USHX/USH2/USHUMX/UTUKI/UZ3/UZ3 TIMES KASKAL/UZU/ZA/",
       "ZA TENU/ZA SQUARED TIMES KUR/ZAG/ZAMX/ZE2/ZI/ZI OVER ZI/ZI3/ZIB/",
       "ZIB KABA TENU/ZIG/ZIZ2/ZU/ZU5/ZU5 TIMES A/ZUBUR/ZUM/KAP ELAMITE/",
       "AB TIMES NUN/AB2 TIMES A/AMAR TIMES KUG/DAG KISIM5 TIMES U2 PLUS MASH/",
       "DAG3/DISH PLUS SHU/DUB TIMES SHE/EZEN TIMES GUD/EZEN TIMES SHE/",
       "GA2 TIMES AN PLUS KAK PLUS A/GA2 TIMES ASH2/GE22/GIG/HUSH"]⟩,
    ⟨0x1237e, "CUNEIFORM SIGN KA TIMES",
      ["ANSHE/ASH3/GISH/GUD/HI TIMES ASH2/LUM/PA/SHUL/TU/UR2"]⟩,
    ⟨0x12388, "CUNEIFORM SIGN",
      ["LAGAB TIMES GI/LU2 SHESHIG TIMES BAD/LU2 TIMES ESH2 PLUS LAL/",
       "LU2 TIMES SHU/MESH/MUSH3 TIMES ZA/NA4/NIN/NIN9/NINDA2 TIMES BAL/",
       "NINDA2 TIMES GI/NU11 ROTATED NINETY DEGREES/PESH2 ASTERISK/PIR2/",
       "SAG TIMES IGI GUNU/TI2/UM TIMES ME/U U"]⟩,
    ⟨0x12400, "CUNEIFORM NUMERIC SIGN",
      ["TWO ASH/THREE ASH/FOUR ASH/FIVE ASH/SIX ASH/SEVEN ASH/EIGHT ASH/",
       "NINE ASH/THREE DISH/FOUR DISH/FIVE DISH/SIX DISH/SEVEN DISH/EIGHT DISH/",
       "NINE DISH/FOUR U/FIVE U/SIX U/SEVEN U/EIGHT U/NINE U/ONE GESH2/",
       "TWO GESH2/THREE GESH2/FOUR GESH2/FIVE GESH2/SIX GESH2/SEVEN GESH2/",
       "EIGHT GESH2/NINE GESH2/ONE GESHU/TWO GESHU/THREE GESHU/FOUR GESHU/",
       "FIVE GESHU/TWO SHAR2/THREE SHAR2/THREE SHAR2 VARIANT FORM/FOUR SHAR2/",
       "FIVE SHAR2/SIX SHAR2/SEVEN SHAR2/EIGHT SHAR2/NINE SHAR2/ONE SHARU/",
       "TWO SHARU/THREE SHARU/THREE SHARU VARIANT FORM/FOUR SHARU/FIVE SHARU/",
       "SHAR2 TIMES GAL PLUS DISH/SHAR2 TIMES GAL PLUS MIN/ONE BURU/TWO BURU/",
       "THREE BURU/THREE BURU VARIANT FORM/FOUR BURU/FIVE BURU/",
       "THREE VARIANT FORM ESH16/THREE VARIANT FORM ESH21/",
       "FOUR VARIANT FORM LIMMU/FOUR VARIANT FORM LIMMU4/",
       "FOUR VARIANT FORM LIMMU A/FOUR VARIANT FORM LIMMU B/",
       "SIX VARIANT FORM ASH9/SEVEN VARIANT FORM IMIN3/",
       "SEVEN VARIANT FORM IMIN A/SEVEN VARIANT FORM IMIN B/",
       "EIGHT VARIANT FORM USSU/EIGHT VARIANT FORM USSU3/",
       "NINE VARIANT FORM ILIMMU/NINE VARIANT FORM ILIMMU3/",
       "NINE VARIANT FORM ILIMMU4/NINE VARIANT FORM ILIMMU A/TWO ASH TENU/",
       "THREE ASH TENU/FOUR ASH TENU/FIVE ASH TENU/SIX ASH TENU/ONE BAN2/",
       "TWO BAN2/THREE BAN2/FOUR BAN2/FOUR BAN2 VARIANT FORM/FIVE BAN2/",
       "FIVE BAN2 VARIANT FORM/NIGIDAMIN/NIGIDAESH/ONE ESHE3/TWO ESHE3/",
       "ONE THIRD DISH/TWO THIRDS DISH/FIVE SIXTHS DISH/",
       "ONE THIRD VARIANT FORM A/TWO THIRDS VARIANT FORM A/ONE EIGHTH ASH/",
       "ONE QUARTER ASH/OLD ASSYRIAN ONE SIXTH/OLD ASSYRIAN ONE QUARTER/",
       "ONE QUARTER GUR/ONE HALF GUR/ELAMITE ONE THIRD/ELAMITE TWO THIRDS/",
       "ELAMITE FORTY/ELAMITE FIFTY/FOUR U VARIANT FORM/FIVE U VARIANT FORM/",
       "SIX U VARIANT FORM/SEVEN U VARIANT FORM/EIGHT U VARIANT FORM/",
       "NINE U VARIANT FORM"]⟩,
    ⟨0x12470, "CUNEIFORM PUNCTUATION SIGN",
      ["OLD ASSYRIAN WORD DIVIDER/VERTICAL COLON/DIAGONAL COLON/",
       "DIAGONAL TRICOLON/DIAGONAL QUADCOLON"]⟩,
    ⟨0x12480, "CUNEIFORM SIGN",
      ["AB TIMES NUN TENU/AB TIMES SHU2/AD TIMES ESH2/BAD TIMES DISH TENU/",
       "BAHAR2 TIMES AB2/BAHAR2 TIMES NI/BAHAR2 TIMES ZA/BU OVER BU TIMES NA2/",
       "DA TIMES TAK4/DAG TIMES KUR/DIM TIMES IGI/DIM TIMES U U U/DIM2 TIMES UD"]⟩,
    ⟨0x1248d, "CUNEIFORM SIGN DUG TIMES",
      ["ANSHE/ASH/ASH AT LEFT/DIN/DUN/ERIN2/GA/GI/GIR2 GUNU/GISH/HA/HI/IGI GUNU/",
       "KASKAL/KUR/KUSHU2/KUSHU2 PLUS KASKAL/LAK-020/LAM/LAM TIMES KUR/",
       "LUH PLUS GISH/MASH/MES/MI/NI/PI/SHE/SI GUNU"]⟩,
    ⟨0x124a9, "CUNEIFORM SIGN",
      ["E2 TIMES KUR/E2 TIMES PAP/ERIN2 X/ESH2 CROSSING ESH2"]⟩,
    ⟨0x124ad, "CUNEIFORM SIGN EZEN SHESHIG TIMES",
      ["ASH/HI/IGI GUNU/LA/LAL/ME/MES/SU"]⟩,
    ⟨0x124b5, "", ["CUNEIFORM SIGN EZEN TIMES SU"]⟩,
    ⟨0x124b6, "CUNEIFORM SIGN GA2 TIMES",
      ["BAHAR2/DIM GUNU/DUG TIMES IGI GUNU/DUG TIMES KASKAL/EREN/GA/GAR PLUS DI/",
       "GAR PLUS NE/HA PLUS A/KUSHU2 PLUS KASKAL/LAM/LAM TIMES KUR/LUH/MUSH/NE/",
       "NE PLUS E2/NE PLUS GI/SHIM/ZIZ2"]⟩,
    ⟨0x124c9, "CUNEIFORM SIGN",
      ["GABA ROTATED NINETY DEGREES/GESHTIN TIMES U/",
       "GISH TIMES GISH CROSSING GISH/GU2 TIMES IGI GUNU/",
       "GUD PLUS GISH TIMES TAK4/HA TENU GUNU/HI TIMES ASH OVER HI TIMES ASH/",
       "KA TIMES BU/KA TIMES KA/KA TIMES U U U/KA TIMES UR/",
       "LAGAB TIMES ZU OVER ZU/LAK-003/LAK-021/LAK-025/LAK-030/LAK-050/LAK-051/",
       "LAK-062/LAK-079 OVER LAK-079 GUNU/LAK-080/LAK-081 OVER LAK-081/LAK-092/",
       "LAK-130/LAK-142/LAK-210/LAK-219/LAK-220/LAK-225/LAK-228/LAK-238/LAK-265/",
       "LAK-266/LAK-343/LAK-347/LAK-348/LAK-383/LAK-384/LAK-390/LAK-441/LAK-449/",
       "LAK-449 TIMES GU/LAK-449 TIMES IGI/LAK-449 TIMES PAP PLUS LU3/",
       "LAK-449 TIMES PAP PLUS PAP PLUS LU3/LAK-449 TIMES U2 PLUS BA/LAK-450/",
       "LAK-457/LAK-470/LAK-483/LAK-490/LAK-492/LAK-493/LAK-495/LAK-550/LAK-608/",
       "LAK-617"]⟩,
    ⟨0x12502, "CUNEIFORM SIGN LAK-617 TIMES",
      ["ASH/BAD/DUN3 GUNU GUNU/KU3/LA/TAR/TE/U2/UD/URUDA"]⟩,
    ⟨0x1250c, "CUNEIFORM SIGN", ["LAK-636/LAK-648"]⟩,
    ⟨0x1250e, "CUNEIFORM SIGN LAK-648 TIMES",
      ["DUB/GA/IGI/IGI GUNU/NI/PAP PLUS PAP PLUS LU3/SHESH PLUS KI/UD/URUDA"]⟩,
    ⟨0x12517, "CUNEIFORM SIGN",
      ["LAK-724/LAK-749/LU2 GUNU TIMES ASH/LU2 TIMES DISH/LU2 TIMES HAL/",
       "LU2 TIMES PAP/LU2 TIMES PAP PLUS PAP PLUS LU3/LU2 TIMES TAK4/",
       "MI PLUS ZA7/MUSH OVER MUSH TIMES GA/MUSH OVER MUSH TIMES KAK"]⟩,
    ⟨0x12522, "CUNEIFORM SIGN NINDA2 TIMES",
      ["DIM GUNU/GISH/GUL/HI/KESH2/LAK-050/MASH/PAP PLUS PAP/U/U PLUS U/URUDA"]⟩,
    ⟨0x1252d, "CUNEIFORM SIGN",
      ["SAG GUNU TIMES HA/SAG TIMES EN/SAG TIMES SHE AT LEFT/SAG TIMES TAK4/",
       "SHA6 TENU/SHE OVER SHE/SHE PLUS HUB2/SHE PLUS NAM2/SHE PLUS SAR/",
       "SHU2 PLUS DUG TIMES NI/SHU2 PLUS E2 TIMES AN/SI TIMES TAK4/",
       "TAK4 PLUS SAG/TUM TIMES GAN2 TENU/TUM TIMES THREE DISH/UR2 INVERTED/",
       "UR2 TIMES UD/URU TIMES DARA3/URU TIMES LAK-668/URU TIMES LU3/ZA7/",
       "ZU OVER ZU PLUS SAR/ZU5 TIMES THREE DISH TENU"]⟩,
    ⟨0x12f90, "CYPRO-MINOAN SIGN",
      ["CM001/CM002/CM004/CM005/CM006/CM007/CM008/CM009/CM010/CM011/CM012/",
       "CM012B/CM013/CM015/CM017/CM019/CM021/CM023/CM024/CM025/CM026/CM027/",
       "CM028/CM029/CM030/CM033/CM034/CM035/CM036/CM037/CM038/CM039/CM040/CM041/",
       "CM044/CM046/CM047/CM049/CM050/CM051/CM052/CM053/CM054/CM055/CM056/CM058/",
       "CM059/CM060/CM061/CM062/CM063/CM064/CM066/CM067/CM068/CM069/CM070/CM071/",
       "CM072/CM073/CM074/CM075/CM075B/CM076/CM078/CM079/CM080/CM081/CM082/",
       "CM083/CM084/CM085/CM086/CM087/CM088/CM089/CM090/CM091/CM092/CM094/CM095/",
       "CM096/CM097/CM098/CM099/CM100/CM101/CM102/CM103/CM104/CM105/CM107/CM108/",
       "CM109/CM110/CM112/CM114/CM301/CM302"]⟩,
    ⟨0x13000, "EGYPTIAN HIEROGLYPH",
      ["A001/A002/A003/A004/A005/A005A/A006/A006A/A006B/A007/A008/A009/A010/",
       "A011/A012/A013/A014/A014A/A015/A016/A017/A017A/A018/A019/A020/A021/A022/",
       "A023/A024/A025/A026/A027/A028/A029/A030/A031/A032/A032A/A033/A034/A035/",
       "A036/A037/A038/A039/A040/A040A/A041/A042/A042A/A043/A043A/A044/A045/",
       "A045A/A046/A047/A048/A049/A050/A051/A052/A053/A054/A055/A056/A057/A058/",
       "A059/A060/A061/A062/A063/A064/A065/A066/A067/A068/A069/A070/B001/B002/",
       "B003/B004/B005/B005A/B006/B007/B008/B009/C001/C002/C002A/C002B/C002C/",
       "C003/C004/C005/C006/C007/C008/C009/C010/C010A/C011/C012/C013/C014/C015/",
       "C016/C017/C018/C019/C020/C021/C022/C023/C024/D001/D002/D003/D004/D005/",
       "D006/D007/D008/D008A/D009/D010/D011/D012/D013/D014/D015/D016/D017/D018/",
       "D019/D020/D021/D022/D023/D024/D025/D026/D027/D027A/D028/D029"]⟩,
    ⟨0x13095, "EGYPTIAN HIEROGLYPH",
      ["D030/D031/D031A/D032/D033/D034/D034A/D035/D036/D037/D038/D039/D040/D041/",
       "D042/D043/D044/D045/D046/D046A/D047/D048/D048A/D049/D050/D050A/D050B/",
       "D050C/D050D/D050E/D050F/D050G/D050H/D050I/D051/D052/D052A/D053/D054/",
       "D054A/D055/D056/D057/D058/D059/D060/D061/D062/D063/D064/D065/D066/D067/",
       "D067A/D067B/D067C/D067D/D067E/D067F/D067G/D067H/E001/E002/E003/E004/",
       "E005/E006/E007/E008/E008A/E009/E009A/E010/E011/E012/E013/E014/E015/E016/",
       "E016A/E017/E017A/E018/E019/E020/E020A/E021/E022/E023/E024/E025/E026/",
       "E027/E028/E028A/E029/E030/E031/E032/E033/E034/E034A/E036/E037/E038/F001/",
       "F001A/F002/F003/F004/F005/F006/F007/F008/F009/F010/F011/F012/F013/F013A/",
       "F014/F015/F016/F017/F018/F019/F020/F021/F021A/F022/F023/F024/F025/F026/",
       "F027/F028/F029/F030/F031/F031A/F032/F033/F034/F035/F036/F037/F037A/F038/",
       "F038A"]⟩,
    ⟨0x1312a, "EGYPTIAN HIEROGLYPH",
      ["F039/F040/F041/F042/F043/F044/F045/F045A/F046/F046A/F047/F047A/F048/",
       "F049/F050/F051/F051A/F051B/F051C/F052/F053/G001/G002/G003/G004/G005/",
       "G006/G006A/G007/G007A/G007B/G008/G009/G010/G011/G011A/G012/G013/G014/",
       "G015/G016/G017/G018/G019/G020/G020A/G021/G022/G023/G024/G025/G026/G026A/",
       "G027/G028/G029/G030/G031/G032/G033/G034/G035/G036/G036A/G037/G037A/G038/",
       "G039/G040/G041/G042/G043/G043A/G044/G045/G045A/G046/G047/G048/G049/G050/",
       "G051/G052/G053/G054/H001/H002/H003/H004/H005/H006/H006A/H007/H008/I001/",
       "I002/I003/I004/I005/I005A/I006/I007/I008/I009/I009A/I010/I010A/I011/",
       "I011A/I012/I013/I014/I015/K001/K002/K003/K004/K005/K006/K007/K008/L001/",
       "L002/L002A/L003/L004/L005/L006/L006A/L007/L008/M001/M001A/M001B/M002/",
       "M003/M003A/M004/M005/M006/M007/M008/M009/M010/M010A/M011/M012/M012A/",
       "M012B"]⟩,
    ⟨0x131bf, "EGYPTIAN HIEROGLYPH",
      ["M012C/M012D/M012E/M012F/M012G/M012H/M013/M014/M015/M015A/M016/M016A/",
       "M017/M017A/M018/M019/M020/M021/M022/M022A/M023/M024/M024A/M025/M026/",
       "M027/M028/M028A/M029/M030/M031/M031A/M032/M033/M033A/M033B/M034/M035/",
       "M036/M037/M038/M039/M040/M040A/M041/M042/M043/M044/N001/N002/N003/N004/",
       "N005/N006/N007/N008/N009/N010/N011/N012/N013/N014/N015/N016/N017/N018/",
       "N018A/N018B/N019/N020/N021/N022/N023/N024/N025/N025A/N026/N027/N028/",
       "N029/N030/N031/N032/N033/N033A/N034/N034A/N035/N035A/N036/N037/N037A/",
       "N038/N039/N040/N041/N042/NL001/NL002/NL003/NL004/NL005/NL005A/NL006/",
       "NL007/NL008/NL009/NL010/NL011/NL012/NL013/NL014/NL015/NL016/NL017/",
       "NL017A/NL018/NL019/NL020/NU001/NU002/NU003/NU004/NU005/NU006/NU007/",
       "NU008/NU009/NU010/NU010A/NU011/NU011A/NU012/NU013/NU014/NU015/NU016/",
       "NU017/NU018/NU018A/NU019/NU020/NU021/NU022/NU022A/O001/O001A/O002/O003"]⟩,
    ⟨0x13254, "EGYPTIAN HIEROGLYPH",
      ["O004/O005/O005A/O006/O006A/O006B/O006C/O006D/O006E/O006F/O007/O008/O009/",
       "O010/O010A/O010B/O010C/O011/O012/O013/O014/O015/O016/O017/O018/O019/",
       "O019A/O020/O020A/O021/O022/O023/O024/O024A/O025/O025A/O026/O027/O028/",
       "O029/O029A/O030/O030A/O031/O032/O033/O033A/O034/O035/O036/O036A/O036B/",
       "O036C/O036D/O037/O038/O039/O040/O041/O042/O043/O044/O045/O046/O047/O048/",
       "O049/O050/O050A/O050B/O051/P001/P001A/P002/P003/P003A/P004/P005/P006/",
       "P007/P008/P009/P010/P011/Q001/Q002/Q003/Q004/Q005/Q006/Q007/R001/R002/",
       "R002A/R003/R003A/R003B/R004/R005/R006/R007/R008/R009/R010/R010A/R011/",
       "R012/R013/R014/R015/R016/R016A/R017/R018/R019/R020/R021/R022/R023/R024/",
       "R025/R026/R027/R028/R029/S001/S002/S002A/S003/S004/S005/S006/S006A/S007/",
       "S008/S009/S010/S011/S012/S013/S014/S014A/S014B/S015/S016/S017/S017A/",
       "S018/S019"]⟩,
    ⟨0x132e9, "EGYPTIAN HIEROGLYPH",
      ["S020/S021/S022/S023/S024/S025/S026/S026A/S026B/S027/S028/S029/S030/S031/",
       "S032/S033/S034/S035/S035A/S036/S037/S038/S039/S040/S041/S042/S043/S044/",
       "S045/S046/T001/T002/T003/T003A/T004/T005/T006/T007/T007A/T008/T008A/",
       "T009/T009A/T010/T011/T011A/T012/T013/T014/T015/T016/T016A/T017/T018/",
       "T019/T020/T021/T022/T023/T024/T025/T026/T027/T028/T029/T030/T031/T032/",
       "T032A/T033/T033A/T034/T035/T036/U001/U002/U003/U004/U005/U006/U006A/",
       "U006B/U007/U008/U009/U010/U011/U012/U013/U014/U015/U016/U017/U018/U019/",
       "U020/U021/U022/U023/U023A/U024/U025/U026/U027/U028/U029/U029A/U030/U031/",
       "U032/U032A/U033/U034/U035/U036/U037/U038/U039/U040/U041/U042/V001/V001A/",
       "V001B/V001C/V001D/V001E/V001F/V001G/V001H/V001I/V002/V002A/V003/V004/",
       "V005/V006/V007/V007A/V007B/V008/V009/V010/V011/V011A/V011B/V011C/V012/",
       "V012A"]⟩,
    ⟨0x1337e, "EGYPTIAN HIEROGLYPH",
      ["V012B/V013/V014/V015/V016/V017/V018/V019/V020/V020A/V020B/V020C/V020D/",
       "V020E/V020F/V020G/V020H/V020I/V020J/V020K/V020L/V021/V022/V023/V023A/",
       "V024/V025/V026/V027/V028/V028A/V029/V029A/V030/V030A/V031/V031A/V032/",
       "V033/V033A/V034/V035/V036/V037/V037A/V038/V039/V040/V040A/W001/W002/",
       "W003/W003A/W004/W005/W006/W007/W008/W009/W009A/W010/W010A/W011/W012/",
       "W013/W014/W014A/W015/W016/W017/W017A/W018/W018A/W019/W020/W021/W022/",
       "W023/W024/W024A/W025/X001/X002/X003/X004/X004A/X004B/X005/X006/X006A/",
       "X007/X008/X008A/Y001/Y001A/Y002/Y003/Y004/Y005/Y006/Y007/Y008/Z001/Z002/",
       "Z002A/Z002B/Z002C/Z002D/Z003/Z003A/Z003B/Z004/Z004A/Z005/Z005A/Z006/",
       "Z007/Z008/Z009/Z010/Z011/Z012/Z013/Z014/Z015/Z015A/Z015B/Z015C/Z015D/",
       "Z015E/Z015F/Z015G/Z015H/Z015I/Z016/Z016A/Z016B/Z016C/Z016D/Z016E/Z016F/",
       "Z016G/Z016H/AA001/AA002/AA003/AA004/AA005/AA006"]⟩,
    ⟨0x13413, "EGYPTIAN HIEROGLYPH",
      ["AA007/AA007A/AA007B/AA008/AA009/AA010/AA011/AA012/AA013/AA014/AA015/",
       "AA016/AA017/AA018/AA019/AA020/AA021/AA022/AA023/AA024/AA025/AA026/AA027/",
       "AA028/AA029/AA030/AA031/AA032"]⟩,
    ⟨0x13430, "EGYPTIAN HIEROGLYPH",
      ["VERTICAL JOINER/HORIZONTAL JOINER/INSERT AT TOP START/",
       "INSERT AT BOTTOM START/INSERT AT TOP END/INSERT AT BOTTOM END/",
       "OVERLAY MIDDLE/BEGIN SEGMENT/END SEGMENT"]⟩,
    ⟨0x14400, "ANATOLIAN HIEROGLYPH",
      ["A001/A002/A003/A004/A005/A006/A007/A008/A009/A010/A010A/A011/A012/A013/",
       "A014/A015/A016/A017/A018/A019/A020/A021/A022/A023/A024/A025/A026/A026A/",
       "A027/A028/A029/A030/A031/A032/A033/A034/A035/A036/A037/A038/A039/A039A/",
       "A040/A041/A041A/A042/A043/A044/A045/A045A/A046/A046A/A046B/A047/A048/",
       "A049/A050/A051/A052/A053/A054/A055/A056/A057/A058/A059/A060/A061/A062/",
       "A063/A064/A065/A066/A066A/A066B/A066C/A067/A068/A069/A070/A071/A072/",
       "A073/A074/A075/A076/A077/A078/A079/A080/A081/A082/A083/A084/A085/A086/",
       "A087/A088/A089/A090/A091/A092/A093/A094/A095/A096/A097/A097A/A098/A098A/",
       "A099/A100/A100A/A101/A101A/A102/A102A/A103/A104/A104A/A104B/A104C/A105/",
       "A105A/A105B/A106/A107/A107A/A107B/A107C/A108/A109/A110/A110A/A110B/A111/",
       "A112/A113/A114/A115/A115A/A116/A117/A118/A119/A120/A121/A122/A123"]⟩,
    ⟨0x14495, "ANATOLIAN HIEROGLYPH",
      ["A124/A125/A125A/A126/A127/A128/A129/A130/A131/A132/A133/A134/A135/A135A/",
       "A136/A137/A138/A139/A140/A141/A142/A143/A144/A145/A146/A147/A148/A149/",
       "A150/A151/A152/A153/A154/A155/A156/A157/A158/A159/A160/A161/A162/A163/",
       "A164/A165/A166/A167/A168/A169/A170/A171/A172/A173/A174/A175/A176/A177/",
       "A178/A179/A180/A181/A182/A183/A184/A185/A186/A187/A188/A189/A190/A191/",
       "A192/A193/A194/A195/A196/A197/A198/A199/A200/A201/A202/A202A/A202B/A203/",
       "A204/A205/A206/A207/A207A/A208/A209/A209A/A210/A211/A212/A213/A214/A215/",
       "A215A/A216/A216A/A217/A218/A219/A220/A221/A222/A223/A224/A225/A226/A227/",
       "A227A/A228/A229/A230/A231/A232/A233/A234/A235/A236/A237/A238/A239/A240/",
       "A241/A242/A243/A244/A245/A246/A247/A248/A249/A250/A251/A252/A253/A254/",
       "A255/A256/A257/A258/A259/A260/A261/A262/A263"]⟩,
    ⟨0x1452a, "ANATOLIAN HIEROGLYPH",
      ["A264/A265/A266/A267/A267A/A268/A269/A270/A271/A272/A273/A274/A275/A276/",
       "A277/A278/A279/A280/A281/A282/A283/A284/A285/A286/A287/A288/A289/A289A/",
       "A290/A291/A292/A293/A294/A294A/A295/A296/A297/A298/A299/A299A/A300/A301/",
       "A302/A303/A304/A305/A306/A307/A308/A309/A309A/A310/A311/A312/A313/A314/",
       "A315/A316/A317/A318/A319/A320/A321/A322/A323/A324/A325/A326/A327/A328/",
       "A329/A329A/A330/A331/A332A/A332B/A332C/A333/A334/A335/A336/A336A/A336B/",
       "A336C/A337/A338/A339/A340/A341/A342/A343/A344/A345/A346/A347/A348/A349/",
       "A350/A351/A352/A353/A354/A355/A356/A357/A358/A359/A359A/A360/A361/A362/",
       "A363/A364/A364A/A365/A366/A367/A368/A368A/A369/A370/A371/A371A/A372/",
       "A373/A374/A375/A376/A377/A378/A379/A380/A381/A381A/A382/A383 RA OR RI/",
       "A383A/A384/A385/A386/A386A/A387/A388/A389/A390/A391/A392/A393 EIGHT/A394"]⟩,
    ⟨0x145bf, "ANATOLIAN HIEROGLYPH",
      ["A395/A396/A397/A398/A399/A400/A401/A402/A403/A404/A405/A406/A407/A408/",
       "A409/A410 BEGIN LOGOGRAM MARK/A410A END LOGOGRAM MARK/A411/A412/A413/",
       "A414/A415/A416/A417/A418/A419/A420/A421/A422/A423/A424/A425/A426/A427/",
       "A428/A429/A430/A431/A432/A433/A434/A435/A436/A437/A438/A439/A440/A441/",
       "A442/A443/A444/A445/A446/A447/A448/A449/A450/A450A/A451/A452/A453/A454/",
       "A455/A456/A457/A457A/A458/A459/A460/A461/A462/A463/A464/A465/A466/A467/",
       "A468/A469/A470/A471/A472/A473/A474/A475/A476/A477/A478/A479/A480/A481/",
       "A482/A483/A484/A485/A486/A487/A488/A489/A490/A491/A492/A493/A494/A495/",
       "A496/A497/A501/A502/A503/A504/A505/A506/A507/A508/A509/A510/A511/A512/",
       "A513/A514/A515/A516/A517/A518/A519/A520/A521/A522/A523/A524/A525/A526/",
       "A527/A528/A529/A530"]⟩
  ]

end Toolsmith.Text.NameBlock
