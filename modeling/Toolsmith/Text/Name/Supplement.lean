/-
The names of supplements to scripts, and the notations of music
(Unicode 14).
-/
import Toolsmith.Text.Name.Block

namespace Toolsmith.Text.NameBlock

/-- The names from U+16800 to U+1CFC3. -/
def supplement : List NameBlock :=
  [
    ⟨0x16800, "BAMUM LETTER PHASE-A",
      ["NGKUE MFON/GBIEE FON/PON MFON PIPAEMGBIEE/PON MFON PIPAEMBA/NAA MFON/",
       "SHUENSHUET/TITA MFON/NZA MFON/SHINDA PA NJI/PON PA NJI PIPAEMGBIEE/",
       "PON PA NJI PIPAEMBA/MAEMBGBIEE/TU MAEMBA/NGANGU/MAEMVEUX/MANSUAE/",
       "MVEUAENGAM/SEUNYAM/NTOQPEN/KEUKEUTNDA/NKINDI/SUU/NGKUENZEUM/LAPAQ/",
       "LET KUT/NTAP MFAA/MAEKEUP/PASHAE/GHEUAERAE/PAMSHAE/MON NGGEUAET/",
       "NZUN MEUT/U YUQ NAE/GHEUAEGHEUAE/NTAP NTAA/SISA/MGBASA/MEUNJOMNDEUQ/",
       "MOOMPUQ/KAFA/PA LEERAEWA/NDA LEERAEWA/PET/MAEMKPEN/NIKA/PUP/TUAEP/LUAEP/",
       "SONJAM/TEUTEUWEN/MAENYI/KET/NDAANGGEUAET/KUOQ/MOOMEUT/SHUM/LOMMAE/FIRI/",
       "ROM/KPOQ/SOQ/MAP PIEET/SHIRAE/NTAP/SHOQ NSHUT YUM/NYIT MONGKEUAEQ/",
       "PAARAE/NKAARAE/UNKNOWN/NGGEN/MAESI/NJAM/MBANYI/NYET/TEUAEN/SOT/PAAM/",
       "NSHIEE/MAEM/NYI/KAQ/NSHA/VEE/LU/NEN/NAQ/MBAQ"]⟩,
    ⟨0x16857, "BAMUM LETTER PHASE-B",
      ["NSHUET/TU MAEMGBIEE/SIEE/SET TU/LOM NTEUM/MBA MAELEE/KIEEM/YEURAE/",
       "MBAARAE/KAM/PEESHI/YAFU LEERAEWA/LAM NSHUT NYAM/NTIEE SHEUOQ/NDU NJAA/",
       "GHEUGHEUAEM/PIT/TU NSIEE/SHET NJAQ/SHEUAEQTU/MFON TEUAEQ/MBIT MBAAKET/",
       "NYI NTEUM/KEUPUQ/GHEUGHEN/KEUYEUX/LAANAE/PARUM/VEUM/NGKINDI MVOP/",
       "NGGEU MBU/WUAET/SAKEUAE/TAAM/MEUQ/NGGUOQ/NGGUOQ LARGE/MFIYAQ/SUE/MBEURI/",
       "MONTIEEN/NYAEMAE/PUNGAAM/MEUT NGGEET/FEUX/MBUOQ/FEE/KEUAEM/MA NJEUAENA/",
       "MA NJUQA/LET/NGGAAM/NSEN/MA/KIQ/NGOM"]⟩,
    ⟨0x1688f, "BAMUM LETTER PHASE-C",
      ["NGKUE MAEMBA/NZA/YUM/WANGKUOQ/NGGEN/NDEUAEREE/NGKAQ/GHARAE/MBEEKEET/",
       "GBAYI/NYIR MKPARAQ MEUN/NTU MBIT/MBEUM/PIRIEEN/NDOMBU/MBAA CABBAGE-TREE/",
       "KEUSHEUAEP/GHAP/KEUKAQ/YU MUOMAE/NZEUM/MBUE/NSEUAEN/MBIT/YEUQ/KPARAQ/",
       "KAA/SEUX/NDIDA/TAASHAE/NJUEQ/TITA YUE/SUAET/NGGUAEN NYAM/VEUX/NANSANAQ/",
       "MA KEUAERI/NTAA/NGGUON/LAP/MBIRIEEN/MGBASAQ/NTEUNGBA/TEUTEUX/NGGUM/FUE/",
       "NDEUT/NSA/NSHAQ/BUNG/VEUAEPEN/MBERAE/RU/NJAEM/LAM/TITUAEP/NSUOT NGOM/",
       "NJEEEE/KET/NGGU/MAESI/MBUAEM/LU/KUT/NJAM/NGOM/WUP/NGGUEET/NSOM/NTEN/",
       "KUOP NKAARAE/NSUN/NDAM/MA NSIEE/YAA/NDAP/SHUEQ/SETFON/MBI/MAEMBA/MBANYI/",
       "KEUSEUX/MBEUX/KEUM/MBAA PICKET/YUWOQ/NJEUX/MIEE/MUAE/SHIQ/KEN LAW/",
       "KEN FATIGUE/NGAQ/NAQ/LIQ/PIN/PEN/TET"]⟩,
    ⟨0x168f1, "BAMUM LETTER PHASE-D",
      ["MBUO/WAP/NJI/MFON/NJIEE/LIEE/NJEUT/NSHEE/NGGAAMAE/NYAM/WUAEN/NGKUN/SHEE/",
       "NGKAP/KEUAETMEUN/TEUT/SHEUAE/NJAP/SUE/KET/YAEMMAE/KUOM/SAP/MFEUT/NDEUX/",
       "MALEERI/MEUT/SEUAEQ/YEN/NJEUAEM/KEUOT MBUAE/NGKEURI/TU/GHAA/NGKYEE/",
       "FEUFEUAET/NDEE/MGBOFUM/LEUAEP/NDON/MONI/MGBEUN/PUUT/MGBIEE/MFO/LUM/",
       "NSIEEP/MBAA/KWAET/NYET/TEUAEN/SOT/YUWOQ/KEUM/RAEM/TEEEE/NGKEUAEQ/MFEUAE/",
       "NSIEET/KEUP/PIP/PEUTAE/NYUE/LET/NGGAAM/MFIEE/NGGWAEN/YUOM/PAP/YUOP/NDAM/",
       "NTEUM/SUAE/KUN/NGGEUX/NGKIEE/TUOT/MEUN/KUQ/NSUM/TEUN/MAENJET/NGGAP/LEUM/",
       "NGGUOM/NSHUT/NJUEQ/GHEUAE/KU/REN OLD/TAE/TOQ/NYI/RII/LEEEE/MEEEE/M/SUU/",
       "MU/SHII/SHEUX/KYEE/NU/SHU/NTEE/PEE/NI/SHOQ/PUQ/MVOP/LOQ/REN MUCH/TI/",
       "NTUU/MBAA SEVEN/SAQ/FAA"]⟩,
    ⟨0x16966, "BAMUM LETTER PHASE-E",
      ["NDAP/TOON/MBEUM/LAP/VOM/LOON/PAA/SOM/RAQ/NSHUOP/NDUN/PUAE/TAM/NGKA/",
       "KPEUX/WUO/SEE/NGGEUAET/PAAM/TOO/KUOP/LOM/NSHIEE/NGOP/MAEM/NGKEUX/NGOQ/",
       "NSHUE/RIMGBA/NJEUX/PEEM/SAA/NGGURAE/MGBA/GHEUX/NGKEUAEM/NJAEMLI/MAP/",
       "LOOT/NGGEEEE/NDIQ/TAEN NTEUM/SET/PUM/NDAA SOFTNESS/NGGUAESHAE NYAM/YIEE/",
       "GHEUN/TUAE/YEUAE/PO/TUMAE/KEUAE/SUAEN/TEUAEQ/VEUAE/WEUX/LAAM/PU/TAAQ/",
       "GHAAMAE/NGEUREUT/SHEUAEQ/MGBEN/MBEE/NZAQ/NKOM/GBET/TUM/KUET/YAP/",
       "NYI CLEAVER/YIT/MFEUQ/NDIAQ/PIEEQ/YUEQ/LEUAEM/FUE/GBEUX/NGKUP/KET/MAE/",
       "NGKAAMI/GHET/FA/NTUM/PEUT/YEUM/NGGEUAE/NYI BETWEEN/NZUQ/POON/MIEE/FUET/",
       "NAE/MUAE/GHEUAE/FU I/MVI/PUAQ/NGKUM/KUT/PIET/NTAP/YEUAET/NGGUP/",
       "PA PEOPLE/FU CALL/FOM/NJEE/A/TOQ/O/I/LAQ/PA PLURAL/TAA/TAQ/",
       "NDAA MY HOUSE/SHIQ/YEUX/NGUAE/YUAEN/YOQ SWIMMING/YOQ COVER/YUQ/YUN/KEUX/",
       "PEUX/NJEE EPOCH/PUE/WUE/FEE/VEE/LU/MI/REUX/RAE/NGUAET/NGA/SHO/SHOQ/",
       "FU REMEDY/NA/PI/LOQ/KO/MEN"]⟩,
    ⟨0x169fb, "BAMUM LETTER PHASE-E", ["MA/MAQ/TEU/KI/MON/TEN/FAQ/GHOM"]⟩,
    ⟨0x16a03, "BAMUM LETTER PHASE-F",
      ["KA/U/KU/EE/REE/TAE/NYI/LA/RII/RIEE/MEEEE/TAA/NDAA/NJAEM/M/SUU/SHII/SI/",
       "SEUX/KYEE/KET/NUAE/NU/NJUAE/YOQ/SHU/YA/NSHA/PEUX/NTEE/WUE/PEE/RU/NI/",
       "REUX/KEN/NGKWAEN/NGGA/SHO/PUAE/FOM/WA/LI/LOQ/KO/MBEN/REN/MA/MO/MBAA/TET/",
       "KPA/SAMBA/VUEQ"]⟩,
    ⟨0x16a40, "MRO LETTER",
      ["TA/NGI/YO/MIM/BA/DA/A/PHI/KHAI/HAO/DAI/CHU/KEAAE/OL/MAEM/NIN/PA/OO/O/RO/",
       "SHI/THEA/EA/WA/E/KO/LAN/LA/HAI/RI/TEK"]⟩,
    ⟨0x16a60, "MRO DIGIT",
      ["ZERO/ONE/TWO/THREE/FOUR/FIVE/SIX/SEVEN/EIGHT/NINE"]⟩,
    ⟨0x16a6e, "MRO", ["DANDA/DOUBLE DANDA"]⟩,
    ⟨0x16a70, "TANGSA LETTER",
      ["OZ/OC/OQ/OX/AZ/AC/AQ/AX/VZ/VC/VQ/VX/EZ/EC/EQ/EX/IZ/IC/IQ/IX/UZ/UC/UQ/UX/",
       "AWZ/AWC/AWQ/AWX/UIZ/UIC/UIQ/UIX/FINAL NG/LONG UEX/SHORT UEZ/SHORT AWX/",
       "UEC/UEZ/UEQ/UEX/UIUZ/UIUC/UIUQ/UIUX/MZ/MC/MQ/MX/KA/KHA/GA/NGA/SA/YA/WA/",
       "PA/NYA/PHA/BA/MA/NA/HA/LA/HTA/TA/DA/RA/NHA/SHA/CA/TSA/GHA/HTTA/THA/XA/",
       "FA/DHA/CHA/ZA"]⟩,
    ⟨0x16ac0, "TANGSA DIGIT",
      ["ZERO/ONE/TWO/THREE/FOUR/FIVE/SIX/SEVEN/EIGHT/NINE"]⟩,
    ⟨0x16ad0, "BASSA VAH LETTER",
      ["ENNI/KA/SE/FA/MBE/YIE/GAH/DHII/KPAH/JO/HWAH/WA/ZO/GBU/DO/CE/UWU/TO/BA/",
       "VU/YEIN/PA/WADDA/A/O/OO/U/EE/E/I"]⟩,
    ⟨0x16af0, "BASSA VAH COMBINING",
      ["HIGH TONE/LOW TONE/MID TONE/LOW-MID TONE/HIGH-LOW TONE"]⟩,
    ⟨0x16af5, "", ["BASSA VAH FULL STOP"]⟩,
    ⟨0x16b00, "PAHAWH HMONG VOWEL",
      ["KEEB/KEEV/KIB/KIV/KAUB/KAUV/KUB/KUV/KEB/KEV/KAIB/KAIV/KOOB/KOOV/KAWB/",
       "KAWV/KUAB/KUAV/KOB/KOV/KIAB/KIAV/KAB/KAV/KWB/KWV/KAAB/KAAV"]⟩,
    ⟨0x16b1c, "PAHAWH HMONG CONSONANT",
      ["VAU/NTSAU/LAU/HAU/NLAU/RAU/NKAU/QHAU/YAU/HLAU/MAU/CHAU/NCHAU/HNAU/PLHAU/",
       "NTHAU/NAU/AU/XAU/CAU"]⟩,
    ⟨0x16b30, "PAHAWH HMONG MARK CIM", ["TUB/SO/KES/KHAV/SUAM/HOM/TAUM"]⟩,
    ⟨0x16b37, "PAHAWH HMONG SIGN",
      ["VOS THOM/VOS TSHAB CEEB/CIM CHEEM/VOS THIAB/VOS FEEM/XYEEM NTXIV/",
       "XYEEM RHO/XYEEM TOV/XYEEM FAIB/VOS SEEV/MEEJ SUAB/VOS NRUA/IB YAM/XAUS/",
       "CIM TSOV ROG"]⟩,
    ⟨0x16b50, "PAHAWH HMONG DIGIT",
      ["ZERO/ONE/TWO/THREE/FOUR/FIVE/SIX/SEVEN/EIGHT/NINE"]⟩,
    ⟨0x16b5b, "PAHAWH HMONG NUMBER",
      ["TENS/HUNDREDS/TEN THOUSANDS/MILLIONS/HUNDRED MILLIONS/TEN BILLIONS/",
       "TRILLIONS"]⟩,
    ⟨0x16b63, "PAHAWH HMONG SIGN",
      ["VOS LUB/XYOO/HLI/THIRD-STAGE HLI/ZWJ THAJ/HNUB/NQIG/XIAB/NTUJ/AV/",
       "TXHEEJ CEEV/MEEJ TSEEB/TAU/LOS/MUS/CIM HAIS LUS NTOG NTOG/",
       "CIM CUAM TSHOOJ/CIM TXWV/CIM TXWV CHWV/CIM PUB DAWB/CIM NRES TOS"]⟩,
    ⟨0x16b7d, "PAHAWH HMONG CLAN SIGN",
      ["TSHEEJ/YEEG/LIS/LAUJ/XYOOJ/KOO/HAWJ/MUAS/THOJ/TSAB/PHAB/KHAB/HAM/VAJ/",
       "FAJ/YAJ/TSWB/KWM/VWJ"]⟩,
    ⟨0x16e40, "MEDEFAIDRIN CAPITAL LETTER",
      ["M/S/V/W/ATIU/Z/KP/P/T/G/F/I/K/A/J/E/B/C/U/YU/L/Q/HP/NY/X/D/OE/N/R/O/AI/Y"]⟩,
    ⟨0x16e60, "MEDEFAIDRIN SMALL LETTER",
      ["M/S/V/W/ATIU/Z/KP/P/T/G/F/I/K/A/J/E/B/C/U/YU/L/Q/HP/NY/X/D/OE/N/R/O/AI/Y"]⟩,
    ⟨0x16e80, "MEDEFAIDRIN DIGIT",
      ["ZERO/ONE/TWO/THREE/FOUR/FIVE/SIX/SEVEN/EIGHT/NINE"]⟩,
    ⟨0x16e8a, "MEDEFAIDRIN NUMBER",
      ["TEN/ELEVEN/TWELVE/THIRTEEN/FOURTEEN/FIFTEEN/SIXTEEN/SEVENTEEN/EIGHTEEN/",
       "NINETEEN"]⟩,
    ⟨0x16e94, "MEDEFAIDRIN",
      ["DIGIT ONE ALTERNATE FORM/DIGIT TWO ALTERNATE FORM/",
       "DIGIT THREE ALTERNATE FORM/COMMA/FULL STOP/SYMBOL AIVA/EXCLAMATION OH"]⟩,
    ⟨0x16f00, "MIAO LETTER",
      ["PA/BA/YI PA/PLA/MA/MHA/ARCHAIC MA/FA/VA/VFA/TA/DA/YI TTA/YI TA/TTA/DDA/",
       "NA/NHA/YI NNA/ARCHAIC NA/NNA/NNHA/LA/LYA/LHA/LHYA/TLHA/DLHA/TLHYA/DLHYA/",
       "KA/GA/YI KA/QA/QGA/NGA/NGHA/ARCHAIC NGA/HA/XA/GHA/GHHA/TSSA/DZZA/NYA/",
       "NYHA/TSHA/DZHA/YI TSHA/YI DZHA/REFORMED TSHA/SHA/SSA/ZHA/ZSHA/TSA/DZA/",
       "YI TSA/SA/ZA/ZSA/ZZA/ZZSA/ARCHAIC ZZA/ZZYA/ZZSYA/WA/AH/HHA/BRI/SYI/DZYI/",
       "TE/TSE/RTE"]⟩,
    ⟨0x16f4f, "MIAO",
      ["SIGN CONSONANT MODIFIER BAR/LETTER NASALIZATION/SIGN ASPIRATION/",
       "SIGN REFORMED VOICING/SIGN REFORMED ASPIRATION"]⟩,
    ⟨0x16f54, "MIAO VOWEL SIGN",
      ["A/AA/AHH/AN/ANG/O/OO/WO/W/E/EN/ENG/OEY/I/IA/IAN/IANG/IO/IE/II/IU/ING/U/",
       "UA/UAN/UANG/UU/UEI/UNG/Y/YI/AE/AEE/ERR/ROUNDED ERR/ER/ROUNDED ER/AI/EI/",
       "AU/OU/N/NG/UOG/YUI/OG/OER/VW/IG/EA/IONG/UI"]⟩,
    ⟨0x16f8f, "MIAO TONE", ["RIGHT/TOP RIGHT/ABOVE/BELOW"]⟩,
    ⟨0x16f93, "MIAO LETTER",
      ["TONE-2/TONE-3/TONE-4/TONE-5/TONE-6/TONE-7/TONE-8"]⟩,
    ⟨0x16f9a, "MIAO LETTER REFORMED",
      ["TONE-1/TONE-2/TONE-4/TONE-5/TONE-6/TONE-8"]⟩,
    ⟨0x16fe0, "",
      ["TANGUT ITERATION MARK/NUSHU ITERATION MARK/OLD CHINESE HOOK MARK/",
       "OLD CHINESE ITERATION MARK/KHITAN SMALL SCRIPT FILLER"]⟩,
    ⟨0x16ff0, "VIETNAMESE ALTERNATE READING MARK", ["CA/NHAY"]⟩,
    ⟨0x18800, "TANGUT",
      ["COMPONENT-001/COMPONENT-002/COMPONENT-003/COMPONENT-004/COMPONENT-005/",
       "COMPONENT-006/COMPONENT-007/COMPONENT-008/COMPONENT-009/COMPONENT-010/",
       "COMPONENT-011/COMPONENT-012/COMPONENT-013/COMPONENT-014/COMPONENT-015/",
       "COMPONENT-016/COMPONENT-017/COMPONENT-018/COMPONENT-019/COMPONENT-020/",
       "COMPONENT-021/COMPONENT-022/COMPONENT-023/COMPONENT-024/COMPONENT-025/",
       "COMPONENT-026/COMPONENT-027/COMPONENT-028/COMPONENT-029/COMPONENT-030/",
       "COMPONENT-031/COMPONENT-032/COMPONENT-033/COMPONENT-034/COMPONENT-035/",
       "COMPONENT-036/COMPONENT-037/COMPONENT-038/COMPONENT-039/COMPONENT-040/",
       "COMPONENT-041/COMPONENT-042/COMPONENT-043/COMPONENT-044/COMPONENT-045/",
       "COMPONENT-046/COMPONENT-047/COMPONENT-048/COMPONENT-049/COMPONENT-050/",
       "COMPONENT-051/COMPONENT-052/COMPONENT-053/COMPONENT-054/COMPONENT-055/",
       "COMPONENT-056/COMPONENT-057/COMPONENT-058/COMPONENT-059/COMPONENT-060/",
       "COMPONENT-061/COMPONENT-062/COMPONENT-063/COMPONENT-064/COMPONENT-065/",
       "COMPONENT-066/COMPONENT-067/COMPONENT-068/COMPONENT-069/COMPONENT-070/",
       "COMPONENT-071/COMPONENT-072/COMPONENT-073/COMPONENT-074/COMPONENT-075/",
       "COMPONENT-076/COMPONENT-077/COMPONENT-078/COMPONENT-079/COMPONENT-080/",
       "COMPONENT-081/COMPONENT-082/COMPONENT-083/COMPONENT-084/COMPONENT-085/",
       "COMPONENT-086/COMPONENT-087/COMPONENT-088/COMPONENT-089/COMPONENT-090/",
       "COMPONENT-091/COMPONENT-092/COMPONENT-093/COMPONENT-094/COMPONENT-095/",
       "COMPONENT-096/COMPONENT-097/COMPONENT-098/COMPONENT-099/COMPONENT-100/",
       "COMPONENT-101/COMPONENT-102/COMPONENT-103/COMPONENT-104/COMPONENT-105/",
       "COMPONENT-106/COMPONENT-107/COMPONENT-108/COMPONENT-109/COMPONENT-110/",
       "COMPONENT-111/COMPONENT-112/COMPONENT-113/COMPONENT-114/COMPONENT-115/",
       "COMPONENT-116/COMPONENT-117/COMPONENT-118/COMPONENT-119/COMPONENT-120/",
       "COMPONENT-121/COMPONENT-122/COMPONENT-123/COMPONENT-124/COMPONENT-125/",
       "COMPONENT-126/COMPONENT-127/COMPONENT-128/COMPONENT-129/COMPONENT-130/",
       "COMPONENT-131/COMPONENT-132/COMPONENT-133/COMPONENT-134/COMPONENT-135/",
       "COMPONENT-136/COMPONENT-137/COMPONENT-138/COMPONENT-139/COMPONENT-140/",
       "COMPONENT-141/COMPONENT-142/COMPONENT-143/COMPONENT-144/COMPONENT-145/",
       "COMPONENT-146/COMPONENT-147/COMPONENT-148/COMPONENT-149"]⟩,
    ⟨0x18895, "TANGUT",
      ["COMPONENT-150/COMPONENT-151/COMPONENT-152/COMPONENT-153/COMPONENT-154/",
       "COMPONENT-155/COMPONENT-156/COMPONENT-157/COMPONENT-158/COMPONENT-159/",
       "COMPONENT-160/COMPONENT-161/COMPONENT-162/COMPONENT-163/COMPONENT-164/",
       "COMPONENT-165/COMPONENT-166/COMPONENT-167/COMPONENT-168/COMPONENT-169/",
       "COMPONENT-170/COMPONENT-171/COMPONENT-172/COMPONENT-173/COMPONENT-174/",
       "COMPONENT-175/COMPONENT-176/COMPONENT-177/COMPONENT-178/COMPONENT-179/",
       "COMPONENT-180/COMPONENT-181/COMPONENT-182/COMPONENT-183/COMPONENT-184/",
       "COMPONENT-185/COMPONENT-186/COMPONENT-187/COMPONENT-188/COMPONENT-189/",
       "COMPONENT-190/COMPONENT-191/COMPONENT-192/COMPONENT-193/COMPONENT-194/",
       "COMPONENT-195/COMPONENT-196/COMPONENT-197/COMPONENT-198/COMPONENT-199/",
       "COMPONENT-200/COMPONENT-201/COMPONENT-202/COMPONENT-203/COMPONENT-204/",
       "COMPONENT-205/COMPONENT-206/COMPONENT-207/COMPONENT-208/COMPONENT-209/",
       "COMPONENT-210/COMPONENT-211/COMPONENT-212/COMPONENT-213/COMPONENT-214/",
       "COMPONENT-215/COMPONENT-216/COMPONENT-217/COMPONENT-218/COMPONENT-219/",
       "COMPONENT-220/COMPONENT-221/COMPONENT-222/COMPONENT-223/COMPONENT-224/",
       "COMPONENT-225/COMPONENT-226/COMPONENT-227/COMPONENT-228/COMPONENT-229/",
       "COMPONENT-230/COMPONENT-231/COMPONENT-232/COMPONENT-233/COMPONENT-234/",
       "COMPONENT-235/COMPONENT-236/COMPONENT-237/COMPONENT-238/COMPONENT-239/",
       "COMPONENT-240/COMPONENT-241/COMPONENT-242/COMPONENT-243/COMPONENT-244/",
       "COMPONENT-245/COMPONENT-246/COMPONENT-247/COMPONENT-248/COMPONENT-249/",
       "COMPONENT-250/COMPONENT-251/COMPONENT-252/COMPONENT-253/COMPONENT-254/",
       "COMPONENT-255/COMPONENT-256/COMPONENT-257/COMPONENT-258/COMPONENT-259/",
       "COMPONENT-260/COMPONENT-261/COMPONENT-262/COMPONENT-263/COMPONENT-264/",
       "COMPONENT-265/COMPONENT-266/COMPONENT-267/COMPONENT-268/COMPONENT-269/",
       "COMPONENT-270/COMPONENT-271/COMPONENT-272/COMPONENT-273/COMPONENT-274/",
       "COMPONENT-275/COMPONENT-276/COMPONENT-277/COMPONENT-278/COMPONENT-279/",
       "COMPONENT-280/COMPONENT-281/COMPONENT-282/COMPONENT-283/COMPONENT-284/",
       "COMPONENT-285/COMPONENT-286/COMPONENT-287/COMPONENT-288/COMPONENT-289/",
       "COMPONENT-290/COMPONENT-291/COMPONENT-292/COMPONENT-293/COMPONENT-294/",
       "COMPONENT-295/COMPONENT-296/COMPONENT-297/COMPONENT-298"]⟩,
    ⟨0x1892a, "TANGUT",
      ["COMPONENT-299/COMPONENT-300/COMPONENT-301/COMPONENT-302/COMPONENT-303/",
       "COMPONENT-304/COMPONENT-305/COMPONENT-306/COMPONENT-307/COMPONENT-308/",
       "COMPONENT-309/COMPONENT-310/COMPONENT-311/COMPONENT-312/COMPONENT-313/",
       "COMPONENT-314/COMPONENT-315/COMPONENT-316/COMPONENT-317/COMPONENT-318/",
       "COMPONENT-319/COMPONENT-320/COMPONENT-321/COMPONENT-322/COMPONENT-323/",
       "COMPONENT-324/COMPONENT-325/COMPONENT-326/COMPONENT-327/COMPONENT-328/",
       "COMPONENT-329/COMPONENT-330/COMPONENT-331/COMPONENT-332/COMPONENT-333/",
       "COMPONENT-334/COMPONENT-335/COMPONENT-336/COMPONENT-337/COMPONENT-338/",
       "COMPONENT-339/COMPONENT-340/COMPONENT-341/COMPONENT-342/COMPONENT-343/",
       "COMPONENT-344/COMPONENT-345/COMPONENT-346/COMPONENT-347/COMPONENT-348/",
       "COMPONENT-349/COMPONENT-350/COMPONENT-351/COMPONENT-352/COMPONENT-353/",
       "COMPONENT-354/COMPONENT-355/COMPONENT-356/COMPONENT-357/COMPONENT-358/",
       "COMPONENT-359/COMPONENT-360/COMPONENT-361/COMPONENT-362/COMPONENT-363/",
       "COMPONENT-364/COMPONENT-365/COMPONENT-366/COMPONENT-367/COMPONENT-368/",
       "COMPONENT-369/COMPONENT-370/COMPONENT-371/COMPONENT-372/COMPONENT-373/",
       "COMPONENT-374/COMPONENT-375/COMPONENT-376/COMPONENT-377/COMPONENT-378/",
       "COMPONENT-379/COMPONENT-380/COMPONENT-381/COMPONENT-382/COMPONENT-383/",
       "COMPONENT-384/COMPONENT-385/COMPONENT-386/COMPONENT-387/COMPONENT-388/",
       "COMPONENT-389/COMPONENT-390/COMPONENT-391/COMPONENT-392/COMPONENT-393/",
       "COMPONENT-394/COMPONENT-395/COMPONENT-396/COMPONENT-397/COMPONENT-398/",
       "COMPONENT-399/COMPONENT-400/COMPONENT-401/COMPONENT-402/COMPONENT-403/",
       "COMPONENT-404/COMPONENT-405/COMPONENT-406/COMPONENT-407/COMPONENT-408/",
       "COMPONENT-409/COMPONENT-410/COMPONENT-411/COMPONENT-412/COMPONENT-413/",
       "COMPONENT-414/COMPONENT-415/COMPONENT-416/COMPONENT-417/COMPONENT-418/",
       "COMPONENT-419/COMPONENT-420/COMPONENT-421/COMPONENT-422/COMPONENT-423/",
       "COMPONENT-424/COMPONENT-425/COMPONENT-426/COMPONENT-427/COMPONENT-428/",
       "COMPONENT-429/COMPONENT-430/COMPONENT-431/COMPONENT-432/COMPONENT-433/",
       "COMPONENT-434/COMPONENT-435/COMPONENT-436/COMPONENT-437/COMPONENT-438/",
       "COMPONENT-439/COMPONENT-440/COMPONENT-441/COMPONENT-442/COMPONENT-443/",
       "COMPONENT-444/COMPONENT-445/COMPONENT-446/COMPONENT-447"]⟩,
    ⟨0x189bf, "TANGUT",
      ["COMPONENT-448/COMPONENT-449/COMPONENT-450/COMPONENT-451/COMPONENT-452/",
       "COMPONENT-453/COMPONENT-454/COMPONENT-455/COMPONENT-456/COMPONENT-457/",
       "COMPONENT-458/COMPONENT-459/COMPONENT-460/COMPONENT-461/COMPONENT-462/",
       "COMPONENT-463/COMPONENT-464/COMPONENT-465/COMPONENT-466/COMPONENT-467/",
       "COMPONENT-468/COMPONENT-469/COMPONENT-470/COMPONENT-471/COMPONENT-472/",
       "COMPONENT-473/COMPONENT-474/COMPONENT-475/COMPONENT-476/COMPONENT-477/",
       "COMPONENT-478/COMPONENT-479/COMPONENT-480/COMPONENT-481/COMPONENT-482/",
       "COMPONENT-483/COMPONENT-484/COMPONENT-485/COMPONENT-486/COMPONENT-487/",
       "COMPONENT-488/COMPONENT-489/COMPONENT-490/COMPONENT-491/COMPONENT-492/",
       "COMPONENT-493/COMPONENT-494/COMPONENT-495/COMPONENT-496/COMPONENT-497/",
       "COMPONENT-498/COMPONENT-499/COMPONENT-500/COMPONENT-501/COMPONENT-502/",
       "COMPONENT-503/COMPONENT-504/COMPONENT-505/COMPONENT-506/COMPONENT-507/",
       "COMPONENT-508/COMPONENT-509/COMPONENT-510/COMPONENT-511/COMPONENT-512/",
       "COMPONENT-513/COMPONENT-514/COMPONENT-515/COMPONENT-516/COMPONENT-517/",
       "COMPONENT-518/COMPONENT-519/COMPONENT-520/COMPONENT-521/COMPONENT-522/",
       "COMPONENT-523/COMPONENT-524/COMPONENT-525/COMPONENT-526/COMPONENT-527/",
       "COMPONENT-528/COMPONENT-529/COMPONENT-530/COMPONENT-531/COMPONENT-532/",
       "COMPONENT-533/COMPONENT-534/COMPONENT-535/COMPONENT-536/COMPONENT-537/",
       "COMPONENT-538/COMPONENT-539/COMPONENT-540/COMPONENT-541/COMPONENT-542/",
       "COMPONENT-543/COMPONENT-544/COMPONENT-545/COMPONENT-546/COMPONENT-547/",
       "COMPONENT-548/COMPONENT-549/COMPONENT-550/COMPONENT-551/COMPONENT-552/",
       "COMPONENT-553/COMPONENT-554/COMPONENT-555/COMPONENT-556/COMPONENT-557/",
       "COMPONENT-558/COMPONENT-559/COMPONENT-560/COMPONENT-561/COMPONENT-562/",
       "COMPONENT-563/COMPONENT-564/COMPONENT-565/COMPONENT-566/COMPONENT-567/",
       "COMPONENT-568/COMPONENT-569/COMPONENT-570/COMPONENT-571/COMPONENT-572/",
       "COMPONENT-573/COMPONENT-574/COMPONENT-575/COMPONENT-576/COMPONENT-577/",
       "COMPONENT-578/COMPONENT-579/COMPONENT-580/COMPONENT-581/COMPONENT-582/",
       "COMPONENT-583/COMPONENT-584/COMPONENT-585/COMPONENT-586/COMPONENT-587/",
       "COMPONENT-588/COMPONENT-589/COMPONENT-590/COMPONENT-591/COMPONENT-592/",
       "COMPONENT-593/COMPONENT-594/COMPONENT-595/COMPONENT-596"]⟩,
    ⟨0x18a54, "TANGUT",
      ["COMPONENT-597/COMPONENT-598/COMPONENT-599/COMPONENT-600/COMPONENT-601/",
       "COMPONENT-602/COMPONENT-603/COMPONENT-604/COMPONENT-605/COMPONENT-606/",
       "COMPONENT-607/COMPONENT-608/COMPONENT-609/COMPONENT-610/COMPONENT-611/",
       "COMPONENT-612/COMPONENT-613/COMPONENT-614/COMPONENT-615/COMPONENT-616/",
       "COMPONENT-617/COMPONENT-618/COMPONENT-619/COMPONENT-620/COMPONENT-621/",
       "COMPONENT-622/COMPONENT-623/COMPONENT-624/COMPONENT-625/COMPONENT-626/",
       "COMPONENT-627/COMPONENT-628/COMPONENT-629/COMPONENT-630/COMPONENT-631/",
       "COMPONENT-632/COMPONENT-633/COMPONENT-634/COMPONENT-635/COMPONENT-636/",
       "COMPONENT-637/COMPONENT-638/COMPONENT-639/COMPONENT-640/COMPONENT-641/",
       "COMPONENT-642/COMPONENT-643/COMPONENT-644/COMPONENT-645/COMPONENT-646/",
       "COMPONENT-647/COMPONENT-648/COMPONENT-649/COMPONENT-650/COMPONENT-651/",
       "COMPONENT-652/COMPONENT-653/COMPONENT-654/COMPONENT-655/COMPONENT-656/",
       "COMPONENT-657/COMPONENT-658/COMPONENT-659/COMPONENT-660/COMPONENT-661/",
       "COMPONENT-662/COMPONENT-663/COMPONENT-664/COMPONENT-665/COMPONENT-666/",
       "COMPONENT-667/COMPONENT-668/COMPONENT-669/COMPONENT-670/COMPONENT-671/",
       "COMPONENT-672/COMPONENT-673/COMPONENT-674/COMPONENT-675/COMPONENT-676/",
       "COMPONENT-677/COMPONENT-678/COMPONENT-679/COMPONENT-680/COMPONENT-681/",
       "COMPONENT-682/COMPONENT-683/COMPONENT-684/COMPONENT-685/COMPONENT-686/",
       "COMPONENT-687/COMPONENT-688/COMPONENT-689/COMPONENT-690/COMPONENT-691/",
       "COMPONENT-692/COMPONENT-693/COMPONENT-694/COMPONENT-695/COMPONENT-696/",
       "COMPONENT-697/COMPONENT-698/COMPONENT-699/COMPONENT-700/COMPONENT-701/",
       "COMPONENT-702/COMPONENT-703/COMPONENT-704/COMPONENT-705/COMPONENT-706/",
       "COMPONENT-707/COMPONENT-708/COMPONENT-709/COMPONENT-710/COMPONENT-711/",
       "COMPONENT-712/COMPONENT-713/COMPONENT-714/COMPONENT-715/COMPONENT-716/",
       "COMPONENT-717/COMPONENT-718/COMPONENT-719/COMPONENT-720/COMPONENT-721/",
       "COMPONENT-722/COMPONENT-723/COMPONENT-724/COMPONENT-725/COMPONENT-726/",
       "COMPONENT-727/COMPONENT-728/COMPONENT-729/COMPONENT-730/COMPONENT-731/",
       "COMPONENT-732/COMPONENT-733/COMPONENT-734/COMPONENT-735/COMPONENT-736/",
       "COMPONENT-737/COMPONENT-738/COMPONENT-739/COMPONENT-740/COMPONENT-741/",
       "COMPONENT-742/COMPONENT-743/COMPONENT-744/COMPONENT-745"]⟩,
    ⟨0x18ae9, "TANGUT",
      ["COMPONENT-746/COMPONENT-747/COMPONENT-748/COMPONENT-749/COMPONENT-750/",
       "COMPONENT-751/COMPONENT-752/COMPONENT-753/COMPONENT-754/COMPONENT-755/",
       "COMPONENT-756/COMPONENT-757/COMPONENT-758/COMPONENT-759/COMPONENT-760/",
       "COMPONENT-761/COMPONENT-762/COMPONENT-763/COMPONENT-764/COMPONENT-765/",
       "COMPONENT-766/COMPONENT-767/COMPONENT-768"]⟩,
    ⟨0x18b00, "KHITAN SMALL SCRIPT",
      ["CHARACTER-18B00/CHARACTER-18B01/CHARACTER-18B02/CHARACTER-18B03/",
       "CHARACTER-18B04/CHARACTER-18B05/CHARACTER-18B06/CHARACTER-18B07/",
       "CHARACTER-18B08/CHARACTER-18B09/CHARACTER-18B0A/CHARACTER-18B0B/",
       "CHARACTER-18B0C/CHARACTER-18B0D/CHARACTER-18B0E/CHARACTER-18B0F/",
       "CHARACTER-18B10/CHARACTER-18B11/CHARACTER-18B12/CHARACTER-18B13/",
       "CHARACTER-18B14/CHARACTER-18B15/CHARACTER-18B16/CHARACTER-18B17/",
       "CHARACTER-18B18/CHARACTER-18B19/CHARACTER-18B1A/CHARACTER-18B1B/",
       "CHARACTER-18B1C/CHARACTER-18B1D/CHARACTER-18B1E/CHARACTER-18B1F/",
       "CHARACTER-18B20/CHARACTER-18B21/CHARACTER-18B22/CHARACTER-18B23/",
       "CHARACTER-18B24/CHARACTER-18B25/CHARACTER-18B26/CHARACTER-18B27/",
       "CHARACTER-18B28/CHARACTER-18B29/CHARACTER-18B2A/CHARACTER-18B2B/",
       "CHARACTER-18B2C/CHARACTER-18B2D/CHARACTER-18B2E/CHARACTER-18B2F/",
       "CHARACTER-18B30/CHARACTER-18B31/CHARACTER-18B32/CHARACTER-18B33/",
       "CHARACTER-18B34/CHARACTER-18B35/CHARACTER-18B36/CHARACTER-18B37/",
       "CHARACTER-18B38/CHARACTER-18B39/CHARACTER-18B3A/CHARACTER-18B3B/",
       "CHARACTER-18B3C/CHARACTER-18B3D/CHARACTER-18B3E/CHARACTER-18B3F/",
       "CHARACTER-18B40/CHARACTER-18B41/CHARACTER-18B42/CHARACTER-18B43/",
       "CHARACTER-18B44/CHARACTER-18B45/CHARACTER-18B46/CHARACTER-18B47/",
       "CHARACTER-18B48/CHARACTER-18B49/CHARACTER-18B4A/CHARACTER-18B4B/",
       "CHARACTER-18B4C/CHARACTER-18B4D/CHARACTER-18B4E/CHARACTER-18B4F/",
       "CHARACTER-18B50/CHARACTER-18B51/CHARACTER-18B52/CHARACTER-18B53/",
       "CHARACTER-18B54/CHARACTER-18B55/CHARACTER-18B56/CHARACTER-18B57/",
       "CHARACTER-18B58/CHARACTER-18B59/CHARACTER-18B5A/CHARACTER-18B5B/",
       "CHARACTER-18B5C/CHARACTER-18B5D/CHARACTER-18B5E/CHARACTER-18B5F/",
       "CHARACTER-18B60/CHARACTER-18B61/CHARACTER-18B62/CHARACTER-18B63/",
       "CHARACTER-18B64/CHARACTER-18B65/CHARACTER-18B66/CHARACTER-18B67/",
       "CHARACTER-18B68/CHARACTER-18B69/CHARACTER-18B6A/CHARACTER-18B6B/",
       "CHARACTER-18B6C/CHARACTER-18B6D/CHARACTER-18B6E/CHARACTER-18B6F/",
       "CHARACTER-18B70/CHARACTER-18B71/CHARACTER-18B72/CHARACTER-18B73/",
       "CHARACTER-18B74/CHARACTER-18B75/CHARACTER-18B76/CHARACTER-18B77/",
       "CHARACTER-18B78/CHARACTER-18B79/CHARACTER-18B7A/CHARACTER-18B7B/",
       "CHARACTER-18B7C/CHARACTER-18B7D/CHARACTER-18B7E/CHARACTER-18B7F/",
       "CHARACTER-18B80/CHARACTER-18B81/CHARACTER-18B82/CHARACTER-18B83/",
       "CHARACTER-18B84/CHARACTER-18B85/CHARACTER-18B86/CHARACTER-18B87/",
       "CHARACTER-18B88/CHARACTER-18B89/CHARACTER-18B8A/CHARACTER-18B8B/",
       "CHARACTER-18B8C/CHARACTER-18B8D/CHARACTER-18B8E/CHARACTER-18B8F/",
       "CHARACTER-18B90/CHARACTER-18B91/CHARACTER-18B92/CHARACTER-18B93/",
       "CHARACTER-18B94"]⟩,
    ⟨0x18b95, "KHITAN SMALL SCRIPT",
      ["CHARACTER-18B95/CHARACTER-18B96/CHARACTER-18B97/CHARACTER-18B98/",
       "CHARACTER-18B99/CHARACTER-18B9A/CHARACTER-18B9B/CHARACTER-18B9C/",
       "CHARACTER-18B9D/CHARACTER-18B9E/CHARACTER-18B9F/CHARACTER-18BA0/",
       "CHARACTER-18BA1/CHARACTER-18BA2/CHARACTER-18BA3/CHARACTER-18BA4/",
       "CHARACTER-18BA5/CHARACTER-18BA6/CHARACTER-18BA7/CHARACTER-18BA8/",
       "CHARACTER-18BA9/CHARACTER-18BAA/CHARACTER-18BAB/CHARACTER-18BAC/",
       "CHARACTER-18BAD/CHARACTER-18BAE/CHARACTER-18BAF/CHARACTER-18BB0/",
       "CHARACTER-18BB1/CHARACTER-18BB2/CHARACTER-18BB3/CHARACTER-18BB4/",
       "CHARACTER-18BB5/CHARACTER-18BB6/CHARACTER-18BB7/CHARACTER-18BB8/",
       "CHARACTER-18BB9/CHARACTER-18BBA/CHARACTER-18BBB/CHARACTER-18BBC/",
       "CHARACTER-18BBD/CHARACTER-18BBE/CHARACTER-18BBF/CHARACTER-18BC0/",
       "CHARACTER-18BC1/CHARACTER-18BC2/CHARACTER-18BC3/CHARACTER-18BC4/",
       "CHARACTER-18BC5/CHARACTER-18BC6/CHARACTER-18BC7/CHARACTER-18BC8/",
       "CHARACTER-18BC9/CHARACTER-18BCA/CHARACTER-18BCB/CHARACTER-18BCC/",
       "CHARACTER-18BCD/CHARACTER-18BCE/CHARACTER-18BCF/CHARACTER-18BD0/",
       "CHARACTER-18BD1/CHARACTER-18BD2/CHARACTER-18BD3/CHARACTER-18BD4/",
       "CHARACTER-18BD5/CHARACTER-18BD6/CHARACTER-18BD7/CHARACTER-18BD8/",
       "CHARACTER-18BD9/CHARACTER-18BDA/CHARACTER-18BDB/CHARACTER-18BDC/",
       "CHARACTER-18BDD/CHARACTER-18BDE/CHARACTER-18BDF/CHARACTER-18BE0/",
       "CHARACTER-18BE1/CHARACTER-18BE2/CHARACTER-18BE3/CHARACTER-18BE4/",
       "CHARACTER-18BE5/CHARACTER-18BE6/CHARACTER-18BE7/CHARACTER-18BE8/",
       "CHARACTER-18BE9/CHARACTER-18BEA/CHARACTER-18BEB/CHARACTER-18BEC/",
       "CHARACTER-18BED/CHARACTER-18BEE/CHARACTER-18BEF/CHARACTER-18BF0/",
       "CHARACTER-18BF1/CHARACTER-18BF2/CHARACTER-18BF3/CHARACTER-18BF4/",
       "CHARACTER-18BF5/CHARACTER-18BF6/CHARACTER-18BF7/CHARACTER-18BF8/",
       "CHARACTER-18BF9/CHARACTER-18BFA/CHARACTER-18BFB/CHARACTER-18BFC/",
       "CHARACTER-18BFD/CHARACTER-18BFE/CHARACTER-18BFF/CHARACTER-18C00/",
       "CHARACTER-18C01/CHARACTER-18C02/CHARACTER-18C03/CHARACTER-18C04/",
       "CHARACTER-18C05/CHARACTER-18C06/CHARACTER-18C07/CHARACTER-18C08/",
       "CHARACTER-18C09/CHARACTER-18C0A/CHARACTER-18C0B/CHARACTER-18C0C/",
       "CHARACTER-18C0D/CHARACTER-18C0E/CHARACTER-18C0F/CHARACTER-18C10/",
       "CHARACTER-18C11/CHARACTER-18C12/CHARACTER-18C13/CHARACTER-18C14/",
       "CHARACTER-18C15/CHARACTER-18C16/CHARACTER-18C17/CHARACTER-18C18/",
       "CHARACTER-18C19/CHARACTER-18C1A/CHARACTER-18C1B/CHARACTER-18C1C/",
       "CHARACTER-18C1D/CHARACTER-18C1E/CHARACTER-18C1F/CHARACTER-18C20/",
       "CHARACTER-18C21/CHARACTER-18C22/CHARACTER-18C23/CHARACTER-18C24/",
       "CHARACTER-18C25/CHARACTER-18C26/CHARACTER-18C27/CHARACTER-18C28/",
       "CHARACTER-18C29"]⟩,
    ⟨0x18c2a, "KHITAN SMALL SCRIPT",
      ["CHARACTER-18C2A/CHARACTER-18C2B/CHARACTER-18C2C/CHARACTER-18C2D/",
       "CHARACTER-18C2E/CHARACTER-18C2F/CHARACTER-18C30/CHARACTER-18C31/",
       "CHARACTER-18C32/CHARACTER-18C33/CHARACTER-18C34/CHARACTER-18C35/",
       "CHARACTER-18C36/CHARACTER-18C37/CHARACTER-18C38/CHARACTER-18C39/",
       "CHARACTER-18C3A/CHARACTER-18C3B/CHARACTER-18C3C/CHARACTER-18C3D/",
       "CHARACTER-18C3E/CHARACTER-18C3F/CHARACTER-18C40/CHARACTER-18C41/",
       "CHARACTER-18C42/CHARACTER-18C43/CHARACTER-18C44/CHARACTER-18C45/",
       "CHARACTER-18C46/CHARACTER-18C47/CHARACTER-18C48/CHARACTER-18C49/",
       "CHARACTER-18C4A/CHARACTER-18C4B/CHARACTER-18C4C/CHARACTER-18C4D/",
       "CHARACTER-18C4E/CHARACTER-18C4F/CHARACTER-18C50/CHARACTER-18C51/",
       "CHARACTER-18C52/CHARACTER-18C53/CHARACTER-18C54/CHARACTER-18C55/",
       "CHARACTER-18C56/CHARACTER-18C57/CHARACTER-18C58/CHARACTER-18C59/",
       "CHARACTER-18C5A/CHARACTER-18C5B/CHARACTER-18C5C/CHARACTER-18C5D/",
       "CHARACTER-18C5E/CHARACTER-18C5F/CHARACTER-18C60/CHARACTER-18C61/",
       "CHARACTER-18C62/CHARACTER-18C63/CHARACTER-18C64/CHARACTER-18C65/",
       "CHARACTER-18C66/CHARACTER-18C67/CHARACTER-18C68/CHARACTER-18C69/",
       "CHARACTER-18C6A/CHARACTER-18C6B/CHARACTER-18C6C/CHARACTER-18C6D/",
       "CHARACTER-18C6E/CHARACTER-18C6F/CHARACTER-18C70/CHARACTER-18C71/",
       "CHARACTER-18C72/CHARACTER-18C73/CHARACTER-18C74/CHARACTER-18C75/",
       "CHARACTER-18C76/CHARACTER-18C77/CHARACTER-18C78/CHARACTER-18C79/",
       "CHARACTER-18C7A/CHARACTER-18C7B/CHARACTER-18C7C/CHARACTER-18C7D/",
       "CHARACTER-18C7E/CHARACTER-18C7F/CHARACTER-18C80/CHARACTER-18C81/",
       "CHARACTER-18C82/CHARACTER-18C83/CHARACTER-18C84/CHARACTER-18C85/",
       "CHARACTER-18C86/CHARACTER-18C87/CHARACTER-18C88/CHARACTER-18C89/",
       "CHARACTER-18C8A/CHARACTER-18C8B/CHARACTER-18C8C/CHARACTER-18C8D/",
       "CHARACTER-18C8E/CHARACTER-18C8F/CHARACTER-18C90/CHARACTER-18C91/",
       "CHARACTER-18C92/CHARACTER-18C93/CHARACTER-18C94/CHARACTER-18C95/",
       "CHARACTER-18C96/CHARACTER-18C97/CHARACTER-18C98/CHARACTER-18C99/",
       "CHARACTER-18C9A/CHARACTER-18C9B/CHARACTER-18C9C/CHARACTER-18C9D/",
       "CHARACTER-18C9E/CHARACTER-18C9F/CHARACTER-18CA0/CHARACTER-18CA1/",
       "CHARACTER-18CA2/CHARACTER-18CA3/CHARACTER-18CA4/CHARACTER-18CA5/",
       "CHARACTER-18CA6/CHARACTER-18CA7/CHARACTER-18CA8/CHARACTER-18CA9/",
       "CHARACTER-18CAA/CHARACTER-18CAB/CHARACTER-18CAC/CHARACTER-18CAD/",
       "CHARACTER-18CAE/CHARACTER-18CAF/CHARACTER-18CB0/CHARACTER-18CB1/",
       "CHARACTER-18CB2/CHARACTER-18CB3/CHARACTER-18CB4/CHARACTER-18CB5/",
       "CHARACTER-18CB6/CHARACTER-18CB7/CHARACTER-18CB8/CHARACTER-18CB9/",
       "CHARACTER-18CBA/CHARACTER-18CBB/CHARACTER-18CBC/CHARACTER-18CBD/",
       "CHARACTER-18CBE"]⟩,
    ⟨0x18cbf, "KHITAN SMALL SCRIPT",
      ["CHARACTER-18CBF/CHARACTER-18CC0/CHARACTER-18CC1/CHARACTER-18CC2/",
       "CHARACTER-18CC3/CHARACTER-18CC4/CHARACTER-18CC5/CHARACTER-18CC6/",
       "CHARACTER-18CC7/CHARACTER-18CC8/CHARACTER-18CC9/CHARACTER-18CCA/",
       "CHARACTER-18CCB/CHARACTER-18CCC/CHARACTER-18CCD/CHARACTER-18CCE/",
       "CHARACTER-18CCF/CHARACTER-18CD0/CHARACTER-18CD1/CHARACTER-18CD2/",
       "CHARACTER-18CD3/CHARACTER-18CD4/CHARACTER-18CD5"]⟩,
    ⟨0x1aff0, "KATAKANA LETTER MINNAN", ["TONE-2/TONE-3/TONE-4/TONE-5"]⟩,
    ⟨0x1aff5, "KATAKANA LETTER MINNAN",
      ["TONE-7/TONE-8/NASALIZED TONE-1/NASALIZED TONE-2/NASALIZED TONE-3/",
       "NASALIZED TONE-4/NASALIZED TONE-5"]⟩,
    ⟨0x1affd, "KATAKANA LETTER MINNAN NASALIZED", ["TONE-7/TONE-8"]⟩,
    ⟨0x1b000, "", ["KATAKANA LETTER ARCHAIC E/HIRAGANA LETTER ARCHAIC YE"]⟩,
    ⟨0x1b002, "HENTAIGANA LETTER",
      ["A-1/A-2/A-3/A-WO/I-1/I-2/I-3/I-4/U-1/U-2/U-3/U-4/U-5/E-2/E-3/E-4/E-5/",
       "E-6/O-1/O-2/O-3/KA-1/KA-2/KA-3/KA-4/KA-5/KA-6/KA-7/KA-8/KA-9/KA-10/",
       "KA-11/KA-KE/KI-1/KI-2/KI-3/KI-4/KI-5/KI-6/KI-7/KI-8/KU-1/KU-2/KU-3/KU-4/",
       "KU-5/KU-6/KU-7/KE-1/KE-2/KE-3/KE-4/KE-5/KE-6/KO-1/KO-2/KO-3/KO-KI/SA-1/",
       "SA-2/SA-3/SA-4/SA-5/SA-6/SA-7/SA-8/SI-1/SI-2/SI-3/SI-4/SI-5/SI-6/SU-1/",
       "SU-2/SU-3/SU-4/SU-5/SU-6/SU-7/SU-8/SE-1/SE-2/SE-3/SE-4/SE-5/SO-1/SO-2/",
       "SO-3/SO-4/SO-5/SO-6/SO-7/TA-1/TA-2/TA-3/TA-4/TI-1/TI-2/TI-3/TI-4/TI-5/",
       "TI-6/TI-7/TU-1/TU-2/TU-3/TU-4/TU-TO/TE-1/TE-2/TE-3/TE-4/TE-5/TE-6/TE-7/",
       "TE-8/TE-9/TO-1/TO-2/TO-3/TO-4/TO-5/TO-6/TO-RA/NA-1/NA-2/NA-3/NA-4/NA-5/",
       "NA-6/NA-7/NA-8/NA-9/NI-1/NI-2/NI-3/NI-4/NI-5/NI-6/NI-7/NI-TE/NU-1/NU-2/",
       "NU-3/NE-1/NE-2/NE-3/NE-4/NE-5"]⟩,
    ⟨0x1b097, "HENTAIGANA LETTER",
      ["NE-6/NE-KO/NO-1/NO-2/NO-3/NO-4/NO-5/HA-1/HA-2/HA-3/HA-4/HA-5/HA-6/HA-7/",
       "HA-8/HA-9/HA-10/HA-11/HI-1/HI-2/HI-3/HI-4/HI-5/HI-6/HI-7/HU-1/HU-2/HU-3/",
       "HE-1/HE-2/HE-3/HE-4/HE-5/HE-6/HE-7/HO-1/HO-2/HO-3/HO-4/HO-5/HO-6/HO-7/",
       "HO-8/MA-1/MA-2/MA-3/MA-4/MA-5/MA-6/MA-7/MI-1/MI-2/MI-3/MI-4/MI-5/MI-6/",
       "MI-7/MU-1/MU-2/MU-3/MU-4/ME-1/ME-2/ME-MA/MO-1/MO-2/MO-3/MO-4/MO-5/MO-6/",
       "YA-1/YA-2/YA-3/YA-4/YA-5/YA-YO/YU-1/YU-2/YU-3/YU-4/YO-1/YO-2/YO-3/YO-4/",
       "YO-5/YO-6/RA-1/RA-2/RA-3/RA-4/RI-1/RI-2/RI-3/RI-4/RI-5/RI-6/RI-7/RU-1/",
       "RU-2/RU-3/RU-4/RU-5/RU-6/RE-1/RE-2/RE-3/RE-4/RO-1/RO-2/RO-3/RO-4/RO-5/",
       "RO-6/WA-1/WA-2/WA-3/WA-4/WA-5/WI-1/WI-2/WI-3/WI-4/WI-5/WE-1/WE-2/WE-3/",
       "WE-4/WO-1/WO-2/WO-3/WO-4/WO-5/WO-6/WO-7/N-MU-MO-1/N-MU-MO-2"]⟩,
    ⟨0x1b11f, "", ["HIRAGANA LETTER ARCHAIC WU"]⟩,
    ⟨0x1b120, "KATAKANA LETTER ARCHAIC", ["YI/YE/WU"]⟩,
    ⟨0x1b150, "HIRAGANA LETTER SMALL", ["WI/WE/WO"]⟩,
    ⟨0x1b164, "KATAKANA LETTER SMALL", ["WI/WE/WO/N"]⟩,
    ⟨0x1b170, "NUSHU",
      ["CHARACTER-1B170/CHARACTER-1B171/CHARACTER-1B172/CHARACTER-1B173/",
       "CHARACTER-1B174/CHARACTER-1B175/CHARACTER-1B176/CHARACTER-1B177/",
       "CHARACTER-1B178/CHARACTER-1B179/CHARACTER-1B17A/CHARACTER-1B17B/",
       "CHARACTER-1B17C/CHARACTER-1B17D/CHARACTER-1B17E/CHARACTER-1B17F/",
       "CHARACTER-1B180/CHARACTER-1B181/CHARACTER-1B182/CHARACTER-1B183/",
       "CHARACTER-1B184/CHARACTER-1B185/CHARACTER-1B186/CHARACTER-1B187/",
       "CHARACTER-1B188/CHARACTER-1B189/CHARACTER-1B18A/CHARACTER-1B18B/",
       "CHARACTER-1B18C/CHARACTER-1B18D/CHARACTER-1B18E/CHARACTER-1B18F/",
       "CHARACTER-1B190/CHARACTER-1B191/CHARACTER-1B192/CHARACTER-1B193/",
       "CHARACTER-1B194/CHARACTER-1B195/CHARACTER-1B196/CHARACTER-1B197/",
       "CHARACTER-1B198/CHARACTER-1B199/CHARACTER-1B19A/CHARACTER-1B19B/",
       "CHARACTER-1B19C/CHARACTER-1B19D/CHARACTER-1B19E/CHARACTER-1B19F/",
       "CHARACTER-1B1A0/CHARACTER-1B1A1/CHARACTER-1B1A2/CHARACTER-1B1A3/",
       "CHARACTER-1B1A4/CHARACTER-1B1A5/CHARACTER-1B1A6/CHARACTER-1B1A7/",
       "CHARACTER-1B1A8/CHARACTER-1B1A9/CHARACTER-1B1AA/CHARACTER-1B1AB/",
       "CHARACTER-1B1AC/CHARACTER-1B1AD/CHARACTER-1B1AE/CHARACTER-1B1AF/",
       "CHARACTER-1B1B0/CHARACTER-1B1B1/CHARACTER-1B1B2/CHARACTER-1B1B3/",
       "CHARACTER-1B1B4/CHARACTER-1B1B5/CHARACTER-1B1B6/CHARACTER-1B1B7/",
       "CHARACTER-1B1B8/CHARACTER-1B1B9/CHARACTER-1B1BA/CHARACTER-1B1BB/",
       "CHARACTER-1B1BC/CHARACTER-1B1BD/CHARACTER-1B1BE/CHARACTER-1B1BF/",
       "CHARACTER-1B1C0/CHARACTER-1B1C1/CHARACTER-1B1C2/CHARACTER-1B1C3/",
       "CHARACTER-1B1C4/CHARACTER-1B1C5/CHARACTER-1B1C6/CHARACTER-1B1C7/",
       "CHARACTER-1B1C8/CHARACTER-1B1C9/CHARACTER-1B1CA/CHARACTER-1B1CB/",
       "CHARACTER-1B1CC/CHARACTER-1B1CD/CHARACTER-1B1CE/CHARACTER-1B1CF/",
       "CHARACTER-1B1D0/CHARACTER-1B1D1/CHARACTER-1B1D2/CHARACTER-1B1D3/",
       "CHARACTER-1B1D4/CHARACTER-1B1D5/CHARACTER-1B1D6/CHARACTER-1B1D7/",
       "CHARACTER-1B1D8/CHARACTER-1B1D9/CHARACTER-1B1DA/CHARACTER-1B1DB/",
       "CHARACTER-1B1DC/CHARACTER-1B1DD/CHARACTER-1B1DE/CHARACTER-1B1DF/",
       "CHARACTER-1B1E0/CHARACTER-1B1E1/CHARACTER-1B1E2/CHARACTER-1B1E3/",
       "CHARACTER-1B1E4/CHARACTER-1B1E5/CHARACTER-1B1E6/CHARACTER-1B1E7/",
       "CHARACTER-1B1E8/CHARACTER-1B1E9/CHARACTER-1B1EA/CHARACTER-1B1EB/",
       "CHARACTER-1B1EC/CHARACTER-1B1ED/CHARACTER-1B1EE/CHARACTER-1B1EF/",
       "CHARACTER-1B1F0/CHARACTER-1B1F1/CHARACTER-1B1F2/CHARACTER-1B1F3/",
       "CHARACTER-1B1F4/CHARACTER-1B1F5/CHARACTER-1B1F6/CHARACTER-1B1F7/",
       "CHARACTER-1B1F8/CHARACTER-1B1F9/CHARACTER-1B1FA/CHARACTER-1B1FB/",
       "CHARACTER-1B1FC/CHARACTER-1B1FD/CHARACTER-1B1FE/CHARACTER-1B1FF/",
       "CHARACTER-1B200/CHARACTER-1B201/CHARACTER-1B202/CHARACTER-1B203/",
       "CHARACTER-1B204"]⟩,
    ⟨0x1b205, "NUSHU",
      ["CHARACTER-1B205/CHARACTER-1B206/CHARACTER-1B207/CHARACTER-1B208/",
       "CHARACTER-1B209/CHARACTER-1B20A/CHARACTER-1B20B/CHARACTER-1B20C/",
       "CHARACTER-1B20D/CHARACTER-1B20E/CHARACTER-1B20F/CHARACTER-1B210/",
       "CHARACTER-1B211/CHARACTER-1B212/CHARACTER-1B213/CHARACTER-1B214/",
       "CHARACTER-1B215/CHARACTER-1B216/CHARACTER-1B217/CHARACTER-1B218/",
       "CHARACTER-1B219/CHARACTER-1B21A/CHARACTER-1B21B/CHARACTER-1B21C/",
       "CHARACTER-1B21D/CHARACTER-1B21E/CHARACTER-1B21F/CHARACTER-1B220/",
       "CHARACTER-1B221/CHARACTER-1B222/CHARACTER-1B223/CHARACTER-1B224/",
       "CHARACTER-1B225/CHARACTER-1B226/CHARACTER-1B227/CHARACTER-1B228/",
       "CHARACTER-1B229/CHARACTER-1B22A/CHARACTER-1B22B/CHARACTER-1B22C/",
       "CHARACTER-1B22D/CHARACTER-1B22E/CHARACTER-1B22F/CHARACTER-1B230/",
       "CHARACTER-1B231/CHARACTER-1B232/CHARACTER-1B233/CHARACTER-1B234/",
       "CHARACTER-1B235/CHARACTER-1B236/CHARACTER-1B237/CHARACTER-1B238/",
       "CHARACTER-1B239/CHARACTER-1B23A/CHARACTER-1B23B/CHARACTER-1B23C/",
       "CHARACTER-1B23D/CHARACTER-1B23E/CHARACTER-1B23F/CHARACTER-1B240/",
       "CHARACTER-1B241/CHARACTER-1B242/CHARACTER-1B243/CHARACTER-1B244/",
       "CHARACTER-1B245/CHARACTER-1B246/CHARACTER-1B247/CHARACTER-1B248/",
       "CHARACTER-1B249/CHARACTER-1B24A/CHARACTER-1B24B/CHARACTER-1B24C/",
       "CHARACTER-1B24D/CHARACTER-1B24E/CHARACTER-1B24F/CHARACTER-1B250/",
       "CHARACTER-1B251/CHARACTER-1B252/CHARACTER-1B253/CHARACTER-1B254/",
       "CHARACTER-1B255/CHARACTER-1B256/CHARACTER-1B257/CHARACTER-1B258/",
       "CHARACTER-1B259/CHARACTER-1B25A/CHARACTER-1B25B/CHARACTER-1B25C/",
       "CHARACTER-1B25D/CHARACTER-1B25E/CHARACTER-1B25F/CHARACTER-1B260/",
       "CHARACTER-1B261/CHARACTER-1B262/CHARACTER-1B263/CHARACTER-1B264/",
       "CHARACTER-1B265/CHARACTER-1B266/CHARACTER-1B267/CHARACTER-1B268/",
       "CHARACTER-1B269/CHARACTER-1B26A/CHARACTER-1B26B/CHARACTER-1B26C/",
       "CHARACTER-1B26D/CHARACTER-1B26E/CHARACTER-1B26F/CHARACTER-1B270/",
       "CHARACTER-1B271/CHARACTER-1B272/CHARACTER-1B273/CHARACTER-1B274/",
       "CHARACTER-1B275/CHARACTER-1B276/CHARACTER-1B277/CHARACTER-1B278/",
       "CHARACTER-1B279/CHARACTER-1B27A/CHARACTER-1B27B/CHARACTER-1B27C/",
       "CHARACTER-1B27D/CHARACTER-1B27E/CHARACTER-1B27F/CHARACTER-1B280/",
       "CHARACTER-1B281/CHARACTER-1B282/CHARACTER-1B283/CHARACTER-1B284/",
       "CHARACTER-1B285/CHARACTER-1B286/CHARACTER-1B287/CHARACTER-1B288/",
       "CHARACTER-1B289/CHARACTER-1B28A/CHARACTER-1B28B/CHARACTER-1B28C/",
       "CHARACTER-1B28D/CHARACTER-1B28E/CHARACTER-1B28F/CHARACTER-1B290/",
       "CHARACTER-1B291/CHARACTER-1B292/CHARACTER-1B293/CHARACTER-1B294/",
       "CHARACTER-1B295/CHARACTER-1B296/CHARACTER-1B297/CHARACTER-1B298/",
       "CHARACTER-1B299"]⟩,
    ⟨0x1b29a, "NUSHU",
      ["CHARACTER-1B29A/CHARACTER-1B29B/CHARACTER-1B29C/CHARACTER-1B29D/",
       "CHARACTER-1B29E/CHARACTER-1B29F/CHARACTER-1B2A0/CHARACTER-1B2A1/",
       "CHARACTER-1B2A2/CHARACTER-1B2A3/CHARACTER-1B2A4/CHARACTER-1B2A5/",
       "CHARACTER-1B2A6/CHARACTER-1B2A7/CHARACTER-1B2A8/CHARACTER-1B2A9/",
       "CHARACTER-1B2AA/CHARACTER-1B2AB/CHARACTER-1B2AC/CHARACTER-1B2AD/",
       "CHARACTER-1B2AE/CHARACTER-1B2AF/CHARACTER-1B2B0/CHARACTER-1B2B1/",
       "CHARACTER-1B2B2/CHARACTER-1B2B3/CHARACTER-1B2B4/CHARACTER-1B2B5/",
       "CHARACTER-1B2B6/CHARACTER-1B2B7/CHARACTER-1B2B8/CHARACTER-1B2B9/",
       "CHARACTER-1B2BA/CHARACTER-1B2BB/CHARACTER-1B2BC/CHARACTER-1B2BD/",
       "CHARACTER-1B2BE/CHARACTER-1B2BF/CHARACTER-1B2C0/CHARACTER-1B2C1/",
       "CHARACTER-1B2C2/CHARACTER-1B2C3/CHARACTER-1B2C4/CHARACTER-1B2C5/",
       "CHARACTER-1B2C6/CHARACTER-1B2C7/CHARACTER-1B2C8/CHARACTER-1B2C9/",
       "CHARACTER-1B2CA/CHARACTER-1B2CB/CHARACTER-1B2CC/CHARACTER-1B2CD/",
       "CHARACTER-1B2CE/CHARACTER-1B2CF/CHARACTER-1B2D0/CHARACTER-1B2D1/",
       "CHARACTER-1B2D2/CHARACTER-1B2D3/CHARACTER-1B2D4/CHARACTER-1B2D5/",
       "CHARACTER-1B2D6/CHARACTER-1B2D7/CHARACTER-1B2D8/CHARACTER-1B2D9/",
       "CHARACTER-1B2DA/CHARACTER-1B2DB/CHARACTER-1B2DC/CHARACTER-1B2DD/",
       "CHARACTER-1B2DE/CHARACTER-1B2DF/CHARACTER-1B2E0/CHARACTER-1B2E1/",
       "CHARACTER-1B2E2/CHARACTER-1B2E3/CHARACTER-1B2E4/CHARACTER-1B2E5/",
       "CHARACTER-1B2E6/CHARACTER-1B2E7/CHARACTER-1B2E8/CHARACTER-1B2E9/",
       "CHARACTER-1B2EA/CHARACTER-1B2EB/CHARACTER-1B2EC/CHARACTER-1B2ED/",
       "CHARACTER-1B2EE/CHARACTER-1B2EF/CHARACTER-1B2F0/CHARACTER-1B2F1/",
       "CHARACTER-1B2F2/CHARACTER-1B2F3/CHARACTER-1B2F4/CHARACTER-1B2F5/",
       "CHARACTER-1B2F6/CHARACTER-1B2F7/CHARACTER-1B2F8/CHARACTER-1B2F9/",
       "CHARACTER-1B2FA/CHARACTER-1B2FB"]⟩,
    ⟨0x1bc00, "DUPLOYAN LETTER",
      ["H/X/P/T/F/K/L/B/D/V/G/R/P N/D S/F N/K M/R S/TH/SLOAN DH/DH/KK/SLOAN J/",
       "HL/LH/RH/M/N/J/S/M N/N M/J M/S J/M WITH DOT/N WITH DOT/J WITH DOT/",
       "J WITH DOTS INSIDE AND ABOVE/S WITH DOT/S WITH DOT BELOW/M S/N S/J S/",
       "S S/M N S/N M S/J M S/S J S/J S WITH DOT/J N/J N S/S T/S T R/S P/S P R/",
       "T S/T R S/W/WH/W R/S N/S M/K R S/G R S/S K/S K R/A/SLOAN OW/OA/O/AOU/I/",
       "E/IE/SHORT I/UI/EE/SLOAN EH/ROMANIAN I/SLOAN EE/LONG I/YE/U/EU/XW/U N/",
       "LONG U/ROMANIAN U/UH/SLOAN U/OOH/OW/OU/WA/WO/WI/WEI/WOW/NASAL U/NASAL O/",
       "NASAL I/NASAL A/PERNIN AN/PERNIN AM/SLOAN EN/SLOAN AN/SLOAN ON/VOCALIC M"]⟩,
    ⟨0x1bc70, "DUPLOYAN AFFIX",
      ["LEFT HORIZONTAL SECANT/MID HORIZONTAL SECANT/RIGHT HORIZONTAL SECANT/",
       "LOW VERTICAL SECANT/MID VERTICAL SECANT/HIGH VERTICAL SECANT"]⟩,
    ⟨0x1bc76, "DUPLOYAN AFFIX ATTACHED",
      ["SECANT/LEFT-TO-RIGHT SECANT/TANGENT/TAIL/E HOOK/I HOOK/TANGENT HOOK"]⟩,
    ⟨0x1bc80, "DUPLOYAN AFFIX HIGH",
      ["ACUTE/TIGHT ACUTE/GRAVE/LONG GRAVE/DOT/CIRCLE/LINE/WAVE/VERTICAL"]⟩,
    ⟨0x1bc90, "DUPLOYAN AFFIX LOW",
      ["ACUTE/TIGHT ACUTE/GRAVE/LONG GRAVE/DOT/CIRCLE/LINE/WAVE/VERTICAL/ARROW"]⟩,
    ⟨0x1bc9c, "DUPLOYAN",
      ["SIGN O WITH CROSS/THICK LETTER SELECTOR/DOUBLE MARK/",
       "PUNCTUATION CHINOOK FULL STOP"]⟩,
    ⟨0x1bca0, "SHORTHAND FORMAT",
      ["LETTER OVERLAP/CONTINUING OVERLAP/DOWN STEP/UP STEP"]⟩,
    ⟨0x1cf00, "ZNAMENNY COMBINING MARK",
      ["GORAZDO NIZKO S KRYZHEM ON LEFT/NIZKO S KRYZHEM ON LEFT/TSATA ON LEFT/",
       "GORAZDO NIZKO ON LEFT/NIZKO ON LEFT/SREDNE ON LEFT/MALO POVYSHE ON LEFT/",
       "POVYSHE ON LEFT/VYSOKO ON LEFT/MALO POVYSHE S KHOKHLOM ON LEFT/",
       "POVYSHE S KHOKHLOM ON LEFT/VYSOKO S KHOKHLOM ON LEFT/",
       "GORAZDO NIZKO S KRYZHEM ON RIGHT/NIZKO S KRYZHEM ON RIGHT/",
       "TSATA ON RIGHT/GORAZDO NIZKO ON RIGHT/NIZKO ON RIGHT/SREDNE ON RIGHT/",
       "MALO POVYSHE ON RIGHT/POVYSHE ON RIGHT/VYSOKO ON RIGHT/",
       "MALO POVYSHE S KHOKHLOM ON RIGHT/POVYSHE S KHOKHLOM ON RIGHT/",
       "VYSOKO S KHOKHLOM ON RIGHT/TSATA S KRYZHEM/MALO POVYSHE S KRYZHEM/",
       "STRANNO MALO POVYSHE/POVYSHE S KRYZHEM/POVYSHE STRANNO/VYSOKO S KRYZHEM/",
       "MALO POVYSHE STRANNO/GORAZDO VYSOKO/ZELO/ON/RAVNO/TIKHAYA/BORZAYA/",
       "UDARKA/PODVERTKA/LOMKA/KUPNAYA/KACHKA/ZEVOK/SKOBA/RAZSEKA/KRYZH ON LEFT"]⟩,
    ⟨0x1cf30, "ZNAMENNY COMBINING TONAL RANGE MARK",
      ["MRACHNO/SVETLO/TRESVETLO"]⟩,
    ⟨0x1cf33, "ZNAMENNY COMBINING MARK",
      ["ZADERZHKA/DEMESTVENNY ZADERZHKA/OTSECHKA/PODCHASHIE/",
       "PODCHASHIE WITH VERTICAL STROKE/CHASHKA/CHASHKA POLNAYA/OBLACHKO/",
       "SOROCHYA NOZHKA/TOCHKA/DVOETOCHIE"]⟩,
    ⟨0x1cf3e, "ZNAMENNY COMBINING",
      ["ATTACHING VERTICAL OMET/MARK CURVED OMET/MARK KRYZH/",
       "LOWER TONAL RANGE INDICATOR"]⟩,
    ⟨0x1cf42, "ZNAMENNY PRIZNAK MODIFIER",
      ["LEVEL-2/LEVEL-3/DIRECTION FLIP/KRYZH/ROG"]⟩,
    ⟨0x1cf50, "ZNAMENNY NEUME",
      ["KRYUK/KRYUK TIKHY/PARAKLIT/DVA V CHELNU/KLYUCH/ZANOZHEK/STOPITSA/",
       "STOPITSA S OCHKOM/PEREVODKA/PEREVODKA NEPOSTOYANNAYA/",
       "STOPITSA WITH SOROCHYA NOZHKA/CHELYUSTKA/PALKA/ZAPYATAYA/",
       "GOLUBCHIK BORZY/GOLUBCHIK TIKHY/GOLUBCHIK MRACHNY/GOLUBCHIK SVETLY/",
       "GOLUBCHIK TRESVETLY/VRAKHIYA PROSTAYA/VRAKHIYA MRACHNAYA/",
       "VRAKHIYA SVETLAYA/VRAKHIYA TRESVETLAYA/VRAKHIYA KLYUCHEVAYA PROSTAYA/",
       "VRAKHIYA KLYUCHEVAYA MRACHNAYA/VRAKHIYA KLYUCHEVAYA SVETLAYA/",
       "VRAKHIYA KLYUCHEVAYA TRESVETLAYA/DOUBLE ZAPYATAYA/REVERSED CHELYUSTKA/",
       "DERBITSA/KHAMILO/CHASHKA/PODCHASHIE/SKAMEYTSA MRACHNAYA/",
       "SKAMEYTSA SVETLAYA/SKAMEYTSA TRESVETLAYA/SKAMEYTSA TIKHAYA/",
       "DEMESTVENNY KLYUCH/SKAMEYTSA KLYUCHEVAYA SVETLAYA/",
       "SKAMEYTSA KLYUCHENEPOSTOYANNAYA/SKAMEYTSA KLYUCHEVAYA TIKHAYA/",
       "SKAMEYTSA DVOECHELNAYA PROSTAYA/SKAMEYTSA DVOECHELNAYA SVETLAYA/",
       "SKAMEYTSA DVOECHELNAYA NEPOSTOYANNAYA/",
       "SKAMEYTSA DVOECHELNAYA KLYUCHEVAYA/SLOZHITIE/SLOZHITIE S ZAPYATOY/",
       "SLOZHITIE ZAKRYTOE/SLOZHITIE S KRYZHEM/KRYZH/ROG/FITA/KOBYLA/ZMEYTSA/",
       "STATYA/STATYA S ZAPYATOY/STATYA S KRYZHEM/STATYA S ZAPYATOY I KRYZHEM/",
       "STATYA S KRYZHEM I ZAPYATOY/STATYA ZAKRYTAYA/",
       "STATYA ZAKRYTAYA S ZAPYATOY/STATYA S ROGOM/STATYA S DVUMYA ZAPYATYMI/",
       "STATYA S ZAPYATOY I PODCHASHIEM/POLKULIZMY/STATYA NEPOSTOYANNAYA"]⟩,
    ⟨0x1cf92, "ZNAMENNY NEUME STRELA",
      ["PROSTAYA/MRACHNOTIKHAYA/KRYZHEVAYA/POLUPOVODNAYA/POVODNAYA/",
       "NEPOSTOYANNAYA/KLYUCHEPOVODNAYA/KLYUCHENEPOSTOYANNAYA/TIKHAYA PUTNAYA/",
       "DVOECHELNAYA/DVOECHELNOKRYZHEVAYA/DVOECHELNOPOVODNAYA/",
       "DVOECHELNAYA KLYUCHEVAYA/DVOECHELNOPOVODNAYA KLYUCHEVAYA/",
       "GROMNAYA WITH SINGLE ZAPYATAYA/GROMOPOVODNAYA WITH SINGLE ZAPYATAYA/",
       "GROMNAYA/GROMOPOVODNAYA/GROMOPOVODNAYA WITH DOUBLE ZAPYATAYA/",
       "GROMOKRYZHEVAYA/GROMOKRYZHEVAYA POVODNAYA"]⟩,
    ⟨0x1cfa7, "ZNAMENNY NEUME MECHIK",
      ["/POVODNY/KLYUCHEVOY/KLYUCHEPOVODNY/KLYUCHENEPOSTOYANNY"]⟩,
    ⟨0x1cfac, "ZNAMENNY NEUME STRELA",
      ["TRYASOGLASNAYA/TRYASOPOVODNAYA/TRYASOSTRELNAYA"]⟩,
    ⟨0x1cfaf, "ZNAMENNY NEUME OSOKA",
      ["/SVETLAYA/TRESVETLAYA/KRYUKOVAYA SVETLAYA/KLYUCHEVAYA SVETLAYA/",
       "KLYUCHEVAYA NEPOSTOYANNAYA"]⟩,
    ⟨0x1cfb5, "ZNAMENNY NEUME STRELA KRYUKOVAYA",
      ["/POVODNAYA/GROMNAYA WITH SINGLE ZAPYATAYA/",
       "GROMOPOVODNAYA WITH SINGLE ZAPYATAYA/GROMNAYA/GROMOPOVODNAYA/",
       "GROMOPOVODNAYA WITH DOUBLE ZAPYATAYA/GROMOKRYZHEVAYA/",
       "GROMOKRYZHEVAYA POVODNAYA/TRYASKA"]⟩,
    ⟨0x1cfbf, "ZNAMENNY NEUME", ["KUFISMA/OBLAKO/DUDA/NEMKA/PAUK"]⟩
  ]

end Toolsmith.Text.NameBlock
