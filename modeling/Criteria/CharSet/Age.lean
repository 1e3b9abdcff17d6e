import Criteria.CharSet
/-!
The version of the character standard that a character came with.
-/

namespace Criteria.CharSet.Age

/-- The versions in order. -/
def versions : List String :=
  [
    "1.1", "2.0", "2.1", "3.0", "3.1", "3.2", "4.0", "4.1", "5.0", "5.1", "5.2", "6.0", "6.1",
    "6.2", "6.3", "7.0", "8.0", "9.0", "10.0", "11.0", "12.0", "12.1", "13.0", "14.0", "15.0",
    "15.1", "16.0"]

/-- The letters that stand for the versions in the table. -/
def labels : List Char := "ghijklmnopqrstuvwxyzGHIJKLM".toList

/-- The runs of characters that came with one version: the first code point and the letter of the
version, an underline for none. -/
def table : List String :=
  [
    "0g 1F6j 1FAg 218j 220l 221m 222j 234m 237n 242o 250g 2A9j 2AEm 2B0g 2DFj 2E0g 2EAj 2EFm",
    "300g 346j 34Fl 350m 358n 35Dm 360g 362j 363l 370p 374g 376p 378_ 37Ag 37Bo 37Eg 37Fv 380_",
    "384g 38B_ 38Cg 38D_ 38Eg 3A2_ 3A3g 3CFp 3D0g 3D7j 3D8l 3DAg 3DBj 3DCg 3DDj 3DEg 3DFj 3E0g",
    "3E1j 3E2g 3F4k 3F6l 3F7m 3FCn 400j 401g 40Dj 40Eg 450j 451g 45Dj 45Eg 487p 488j 48Al 48Cj",
    "490g 4C5l 4C7g 4C9l 4CBg 4CDl 4CFo 4D0g 4ECj 4EEg 4F6n 4F8g 4FAo 500l 510o 514p 524q 526r",
    "528v 530_ 531g 557_ 559g 560z 561g 588z 589g 58Aj 58B_ 58Dv 58Fs 590_ 591h 5A2n 5A3h 5B0g",
    "5BAo 5BBg 5C4h 5C5n 5C8_ 5D0g 5EB_ 5EFz 5F0g 5F5_ 600m 604s 605v 606p 60Bn 60Cg 60Dm 616p",
    "61Bg 61Cu 61DJ 61En 61Fg 620r 621g 63Bp 640g 653j 656m 659n 65Fr 660g 66El 670g 6B8j 6BAg",
    "6BFj 6C0g 6CFj 6D0g 6EEm 6F0g 6FAj 6FFm 700j 70E_ 70Fj 72Dm 730j 74B_ 74Dm 750n 76Ep 780j",
    "7B1l 7B2_ 7C0o 7FB_ 7FDz 800q 82E_ 830q 83F_ 840r 85C_ 85Er 85F_ 860y 86B_ 870J 88F_ 890J",
    "892_ 897M 898J 8A0s 8A1v 8A2s 8ADv 8B3w 8B5J 8B6x 8BEI 8C8J 8D3z 8D4x 8E3w 8E4s 8FFv 900q",
    "901g 904m 905g 93Ar 93Cg 94Eq 94Fr 950g 955q 956r 958g 971p 973r 978v 979q 97Bo 97Dn 97Eo",
    "980v 981g 984_ 985g 98D_ 98Fg 991_ 993g 9A9_ 9AAg 9B1_ 9B2g 9B3_ 9B6g 9BA_ 9BCg 9BDm 9BEg",
    "9C5_ 9C7g 9C9_ 9CBg 9CEn 9CF_ 9D7g 9D8_ 9DCg 9DE_ 9DFg 9E4_ 9E6g 9FBq 9FCy 9FEz 9FF_ A01m",
    "A02g A03m A04_ A05g A0B_ A0Fg A11_ A13g A29_ A2Ag A31_ A32g A34_ A35g A37_ A38g A3A_ A3Cg",
    "A3D_ A3Eg A43_ A47g A49_ A4Bg A4E_ A51p A52_ A59g A5D_ A5Eg A5F_ A66g A75p A76z A77_ A81g",
    "A84_ A85g A8Cm A8Dg A8E_ A8Fg A92_ A93g AA9_ AAAg AB1_ AB2g AB4_ AB5g ABA_ ABCg AC6_ AC7g",
    "ACA_ ACBg ACE_ AD0g AD1_ AE0g AE1m AE4_ AE6g AF0s AF1m AF2_ AF9w AFAy B00_ B01g B04_ B05g",
    "B0D_ B0Fg B11_ B13g B29_ B2Ag B31_ B32g B34_ B35m B36g B3A_ B3Cg B44p B45_ B47g B49_ B4Bg",
    "B4E_ B55I B56g B58_ B5Cg B5E_ B5Fg B62p B64_ B66g B71m B72r B78_ B82g B84_ B85g B8B_ B8Eg",
    "B91_ B92g B96_ B99g B9B_ B9Cg B9D_ B9Eg BA0_ BA3g BA5_ BA8g BAB_ BAEg BB6n BB7g BBA_ BBEg",
    "BC3_ BC6g BC9_ BCAg BCE_ BD0p BD1_ BD7g BD8_ BE6n BE7g BF3m BFB_ C00v C01g C04z C05g C0D_",
    "C0Eg C11_ C12g C29_ C2Ag C34v C35g C3A_ C3CJ C3Dp C3Eg C45_ C46g C49_ C4Ag C4E_ C55g C57_",
    "C58p C5Aw C5B_ C5DJ C5E_ C60g C62p C64_ C66g C70_ C77G C78p C80x C81v C82g C84z C85g C8D_",
    "C8Eg C91_ C92g CA9_ CAAg CB4_ CB5g CBA_ CBCm CBEg CC5_ CC6g CC9_ CCAg CCE_ CD5g CD7_ CDDJ",
    "CDEg CDF_ CE0g CE2o CE4_ CE6g CF0_ CF1o CF3K CF4_ D00y D01v D02g D04I D05g D0D_ D0Eg D11_",
    "D12g D29r D2Ag D3Ar D3By D3Dp D3Eg D44p D45_ D46g D49_ D4Ag D4Er D4Fx D50_ D54x D57g D58x",
    "D5Fw D60g D62p D64_ D66g D70p D76x D79p D80_ D81I D82j D84_ D85j D97_ D9Aj DB2_ DB3j DBC_",
    "DBDj DBE_ DC0j DC7_ DCAj DCB_ DCFj DD5_ DD6j DD7_ DD8j DE0_ DE6v DF0_ DF2j DF5_ E01g E3B_",
    "E3Fg E5C_ E81g E83_ E84g E85_ E86G E87g E89G E8Ag E8B_ E8CG E8Dg E8EG E94g E98G E99g EA0G",
    "EA1g EA4_ EA5g EA6_ EA7g EA8G EAAg EACG EADg EBAG EBBg EBE_ EC0g EC5_ EC6g EC7_ EC8g ECEK",
    "ECF_ ED0g EDA_ EDCg EDEs EE0_ F00h F48_ F49h F6Aj F6Bp F6D_ F71h F8Cr F90h F96j F97h F98_",
    "F99h FAEj FB1h FB8j FB9h FBAj FBD_ FBEj FCD_ FCEp FCFj FD0n FD2p FD5q FD9r FDB_ 1000j",
    "1022p 1023j 1028p 1029j 102Bp 102Cj 1033p 1036j 103Ap 1040j 105Ap 109Aq 109Ep 10A0g 10C6_",
    "10C7s 10C8_ 10CDs 10CE_ 10D0g 10F7l 10F9n 10FBg 10FCn 10FDs 1100g 115Aq 115Fg 11A3q 11A8g",
    "11FAq 1200j 1207n 1208j 1247n 1248j 1249_ 124Aj 124E_ 1250j 1257_ 1258j 1259_ 125Aj 125E_",
    "1260j 1287n 1288j 1289_ 128Aj 128E_ 1290j 12AFn 12B0j 12B1_ 12B2j 12B6_ 12B8j 12BF_ 12C0j",
    "12C1_ 12C2j 12C6_ 12C8j 12CFn 12D0j 12D7_ 12D8j 12EFn 12F0j 130Fn 1310j 1311_ 1312j 1316_",
    "1318j 131Fn 1320j 1347n 1348j 135B_ 135Dr 135Fn 1361j 137D_ 1380n 139A_ 13A0j 13F5w 13F6_",
    "13F8w 13FE_ 1400q 1401j 1677q 1680j 169D_ 16A0j 16F1v 16F9_ 1700l 170DJ 170El 1715J 1716_",
    "171FJ 1720l 1737_ 1740l 1754_ 1760l 176D_ 176El 1771_ 1772l 1774_ 1780j 17DDm 17DE_ 17E0j",
    "17EA_ 17F0m 17FA_ 1800j 180FJ 1810j 181A_ 1820j 1878z 1879_ 1880j 18AAp 18AB_ 18B0q 18F6_",
    "1900m 191Dv 191F_ 1920m 192C_ 1930m 193C_ 1940m 1941_ 1944m 196E_ 1970m 1975_ 1980n 19AAq",
    "19AC_ 19B0n 19CA_ 19D0n 19DAq 19DB_ 19DEn 19E0m 1A00n 1A1C_ 1A1En 1A20q 1A5F_ 1A60q 1A7D_",
    "1A7Fq 1A8A_ 1A90q 1A9A_ 1AA0q 1AAE_ 1AB0v 1ABFI 1AC1J 1ACF_ 1B00o 1B4CJ 1B4D_ 1B4EM 1B50o",
    "1B7DJ 1B7FM 1B80p 1BABs 1BAEp 1BBAs 1BC0r 1BF4_ 1BFCr 1C00p 1C38_ 1C3Bp 1C4A_ 1C4Dp 1C80x",
    "1C89M 1C8B_ 1C90z 1CBB_ 1CBDz 1CC0s 1CC8_ 1CD0q 1CF3s 1CF7y 1CF8v 1CFAG 1CFB_ 1D00m 1D6Cn",
    "1DC4o 1DCBp 1DE7v 1DF6y 1DFAJ 1DFBx 1DFCr 1DFDq 1DFEo 1E00g 1E9Bh 1E9Cp 1EA0g 1EFAp 1F00g",
    "1F16_ 1F18g 1F1E_ 1F20g 1F46_ 1F48g 1F4E_ 1F50g 1F58_ 1F59g 1F5A_ 1F5Bg 1F5C_ 1F5Dg 1F5E_",
    "1F5Fg 1F7E_ 1F80g 1FB5_ 1FB6g 1FC5_ 1FC6g 1FD4_ 1FD6g 1FDC_ 1FDDg 1FF0_ 1FF2g 1FF5_ 1FF6g",
    "1FFF_ 2000g 202Fj 2030g 2047l 2048j 204El 2053m 2055n 2057l 2058n 205Fl 2064p 2065_ 2066u",
    "206Ag 2071l 2072_ 2074g 208F_ 2090n 2095r 209D_ 20A0g 20ABh 20ACi 20ADj 20B0l 20B2n 20B6q",
    "20B9r 20BAt 20BBv 20BEw 20BFy 20C0J 20C1_ 20D0g 20E2j 20E4l 20EBn 20ECo 20F0p 20F1_ 2100g",
    "2139j 213Bm 213Cn 213Dl 214Cn 214Do 214Fp 2150q 2153g 2183j 2184o 2185p 2189q 218Aw 218C_",
    "2190g 21EBj 21F4l 2200g 22F2l 2300g 2301j 2302g 237Bj 237Cl 237Dj 239Bl 23CFm 23D1n 23DCo",
    "23E8q 23E9r 23F4v 23FBx 23FFy 2400g 2425j 2427M 242A_ 2440g 244B_ 2460g 24EBl 24FFm 2500g",
    "2596l 25A0g 25F0j 25F8l 2600g 2614m 2616l 2618n 2619j 261Ag 2670j 2672l 267En 2680l 268Am",
    "2692n 269Dp 269Eq 26A0m 26A2n 26B2o 26B3p 26BDq 26C0p 26C4q 26CEr 26CFq 26E2r 26E3q 26E4r",
    "26E8q 2700v 2701g 2705r 2706g 270Ar 270Cg 2728r 2729g 274Cr 274Dg 274Er 274Fg 2753r 2756g",
    "2757q 2758g 275Fr 2761g 2768l 2776g 2795r 2798g 27B0r 27B1g 27BFr 27C0n 27C7o 27CBs 27CCp",
    "27CDs 27CEr 27D0l 27ECp 27F0l 2800j 2900l 2B00m 2B0En 2B14o 2B1Bp 2B20o 2B24p 2B4Dv 2B50p",
    "2B55q 2B5Av 2B74_ 2B76v 2B96_ 2B97I 2B98v 2BBAz 2BBDv 2BC9G 2BCAv 2BD2y 2BD3z 2BECw 2BF0z",
    "2BFFG 2C00n 2C2FJ 2C30n 2C5FJ 2C60o 2C6Dp 2C70q 2C71p 2C74o 2C78p 2C7Eq 2C80n 2CEBq 2CF2s",
    "2CF4_ 2CF9n 2D26_ 2D27s 2D28_ 2D2Ds 2D2E_ 2D30n 2D66s 2D68_ 2D6Fn 2D70r 2D71_ 2D7Fr 2D80n",
    "2D97_ 2DA0n 2DA7_ 2DA8n 2DAF_ 2DB0n 2DB7_ 2DB8n 2DBF_ 2DC0n 2DC7_ 2DC8n 2DCF_ 2DD0n 2DD7_",
    "2DD8n 2DDF_ 2DE0p 2E00n 2E18p 2E1Cn 2E1Ep 2E31q 2E32s 2E3Cv 2E43x 2E45y 2E4Az 2E4FG 2E50I",
    "2E53J 2E5E_ 2E80j 2E9A_ 2E9Bj 2EF4_ 2F00j 2FD6_ 2FF0j 2FFCL 3000g 3038j 303Bl 303Ej 303Fg",
    "3040_ 3041g 3095l 3097_ 3099g 309Fl 30A1g 30FFl 3100_ 3105g 312Dp 312Ey 312Fz 3130_ 3131g",
    "318F_ 3190g 31A0j 31B8r 31BBI 31C0n 31D0p 31E4M 31E6_ 31EFL 31F0l 3200g 321Dm 321F_ 3220g",
    "3244q 3250m 3251l 3260g 327Cm 327En 327Fg 32B1l 32C0g 32CCm 32D0g 32FFH 3300g 3377m 337Bg",
    "33DEm 33E0g 33FFm 3400j 4DB6I 4DC0m 4E00g 9FA6n 9FBCp 9FC4q 9FCCs 9FCDw 9FD6y 9FEBz 9FF0I",
    "9FFDJ A000j A48D_ A490j A4A2l A4A4j A4B4l A4B5j A4C1l A4C2j A4C5l A4C6j A4C7_ A4D0q A500p",
    "A62C_ A640p A660r A662p A674s A67Cp A698v A69Ew A69Fs A6A0q A6F8_ A700n A717o A71Bp A720o",
    "A722p A78Dr A78Fw A790r A792s A794v A7A0r A7AAs A7ABv A7AEx A7AFz A7B0v A7B2w A7B8z A7BAG",
    "A7C0J A7C2G A7C7I A7CBM A7CE_ A7D0J A7D2_ A7D3J A7D4_ A7D5J A7DAM A7DD_ A7F2J A7F5I A7F7v",
    "A7F8s A7FAr A7FBp A800n A82CI A82D_ A830q A83A_ A840o A878_ A880p A8C5x A8C6_ A8CEp A8DA_",
    "A8E0q A8FCw A8FEz A900p A954_ A95Fp A960q A97D_ A980q A9CE_ A9CFq A9DA_ A9DEq A9E0v A9FF_",
    "AA00p AA37_ AA40p AA4E_ AA50p AA5A_ AA5Cp AA60q AA7Cv AA80q AAC3_ AADBq AAE0s AAF7_ AB01r",
    "AB07_ AB09r AB0F_ AB11r AB17_ AB20r AB27_ AB28r AB2F_ AB30v AB60w AB64v AB66G AB68I AB6C_",
    "AB70w ABC0q ABEE_ ABF0q ABFA_ AC00h D7A4_ D7B0q D7C7_ D7CBq D7FC_ E000g FA2Es FA30l FA6Bq",
    "FA6E_ FA70n FADA_ FB00g FB07_ FB13g FB18_ FB1Dj FB1Eg FB37_ FB38g FB3D_ FB3Eg FB3F_ FB40g",
    "FB42_ FB43g FB45_ FB46g FBB2r FBC2J FBC3_ FBD3g FD40J FD50g FD90_ FD92g FDC8_ FDCFJ FDD0k",
    "FDF0g FDFCl FDFDm FDFEJ FE00l FE10n FE1A_ FE20g FE24p FE27v FE2Ew FE30g FE45l FE47m FE49g",
    "FE53_ FE54g FE67_ FE68g FE6C_ FE70g FE73l FE74g FE75_ FE76g FEFD_ FEFFg FF00_ FF01g FF5Fl",
    "FF61g FFBF_ FFC2g FFC8_ FFCAg FFD0_ FFD2g FFD8_ FFDAg FFDD_ FFE0g FFE7_ FFE8g FFEF_ FFF9j",
    "FFFCi FFFDg 10000m 1000C_ 1000Dm 10027_ 10028m 1003B_ 1003Cm 1003E_ 1003Fm 1004E_ 10050m",
    "1005E_ 10080m 100FB_ 10100m 10103_ 10107m 10134_ 10137m 10140n 1018Bv 1018Dx 1018F_",
    "10190p 1019CI 1019D_ 101A0v 101A1_ 101D0p 101FE_ 10280p 1029D_ 102A0p 102D1_ 102E0v",
    "102FC_ 10300k 1031Fv 10320k 10324_ 1032Dy 10330k 1034B_ 10350v 1037B_ 10380m 1039E_",
    "1039Fm 103A0n 103C4_ 103C8n 103D6_ 10400k 10426m 10428k 1044Em 1049E_ 104A0m 104AA_",
    "104B0x 104D4_ 104D8x 104FC_ 10500v 10528_ 10530v 10564_ 1056Fv 10570J 1057B_ 1057CJ",
    "1058B_ 1058CJ 10593_ 10594J 10596_ 10597J 105A2_ 105A3J 105B2_ 105B3J 105BA_ 105BBJ",
    "105BD_ 105C0M 105F4_ 10600v 10737_ 10740v 10756_ 10760v 10768_ 10780J 10786_ 10787J",
    "107B1_ 107B2J 107BB_ 10800m 10806_ 10808m 10809_ 1080Am 10836_ 10837m 10839_ 1083Cm",
    "1083D_ 1083Fm 10840q 10856_ 10857q 10860v 1089F_ 108A7v 108B0_ 108E0w 108F3_ 108F4w",
    "108F6_ 108FBw 10900o 1091Aq 1091C_ 1091Fo 10920p 1093A_ 1093Fp 10940_ 10980s 109B8_",
    "109BCw 109BEs 109C0w 109D0_ 109D2w 10A00n 10A04_ 10A05n 10A07_ 10A0Cn 10A14_ 10A15n",
    "10A18_ 10A19n 10A34z 10A36_ 10A38n 10A3B_ 10A3Fn 10A48z 10A49_ 10A50n 10A59_ 10A60q",
    "10A80v 10AA0_ 10AC0v 10AE7_ 10AEBv 10AF7_ 10B00q 10B36_ 10B39q 10B56_ 10B58q 10B73_",
    "10B78q 10B80v 10B92_ 10B99v 10B9D_ 10BA9v 10BB0_ 10C00q 10C49_ 10C80w 10CB3_ 10CC0w",
    "10CF3_ 10CFAw 10D00z 10D28_ 10D30z 10D3A_ 10D40M 10D66_ 10D69M 10D86_ 10D8EM 10D90_",
    "10E60q 10E7F_ 10E80I 10EAA_ 10EABI 10EAE_ 10EB0I 10EB2_ 10EC2M 10EC5_ 10EFCM 10EFDK",
    "10F00z 10F28_ 10F30z 10F5A_ 10F70J 10F8A_ 10FB0I 10FCC_ 10FE0G 10FF7_ 11000r 1104E_",
    "11052r 11070J 11076_ 1107Fv 11080q 110C2J 110C3_ 110CDz 110CE_ 110D0s 110E9_ 110F0s",
    "110FA_ 11100s 11135_ 11136s 11144z 11147I 11148_ 11150v 11177_ 11180s 111C9w 111CDv",
    "111CEI 111D0s 111DAv 111DBw 111E0_ 111E1v 111F5_ 11200v 11212_ 11213v 1123Ex 1123FK",
    "11242_ 11280w 11287_ 11288w 11289_ 1128Aw 1128E_ 1128Fw 1129E_ 1129Fw 112AA_ 112B0v",
    "112EB_ 112F0v 112FA_ 11300w 11301v 11304_ 11305v 1130D_ 1130Fv 11311_ 11313v 11329_",
    "1132Av 11331_ 11332v 11334_ 11335v 1133A_ 1133Bz 1133Cv 11345_ 11347v 11349_ 1134Bv",
    "1134E_ 11350w 11351_ 11357v 11358_ 1135Dv 11364_ 11366v 1136D_ 11370v 11375_ 11380M",
    "1138A_ 1138BM 1138C_ 1138EM 1138F_ 11390M 113B6_ 113B7M 113C1_ 113C2M 113C3_ 113C5M",
    "113C6_ 113C7M 113CB_ 113CCM 113D6_ 113D7M 113D9_ 113E1M 113E3_ 11400x 1145AI 1145Bx",
    "1145C_ 1145Dx 1145Ez 1145FG 11460I 11462_ 11480v 114C8_ 114D0v 114DA_ 11580v 115B6_",
    "115B8v 115CAw 115DE_ 11600v 11645_ 11650v 1165A_ 11660x 1166D_ 11680s 116B8G 116B9J",
    "116BA_ 116C0s 116CA_ 116D0M 116E4_ 11700w 1171Az 1171B_ 1171Dw 1172C_ 11730w 11740J",
    "11747_ 11800z 1183C_ 118A0v 118F3_ 118FFv 11900I 11907_ 11909I 1190A_ 1190CI 11914_",
    "11915I 11917_ 11918I 11936_ 11937I 11939_ 1193BI 11947_ 11950I 1195A_ 119A0G 119A8_",
    "119AAG 119D8_ 119DAG 119E5_ 11A00y 11A48_ 11A50y 11A84G 11A86y 11A9Dz 11A9Ey 11AA3_",
    "11AB0J 11AC0v 11AF9_ 11B00K 11B0A_ 11BC0M 11BE2_ 11BF0M 11BFA_ 11C00x 11C09_ 11C0Ax",
    "11C37_ 11C38x 11C46_ 11C50x 11C6D_ 11C70x 11C90_ 11C92x 11CA8_ 11CA9x 11CB7_ 11D00y",
    "11D07_ 11D08y 11D0A_ 11D0By 11D37_ 11D3Ay 11D3B_ 11D3Cy 11D3E_ 11D3Fy 11D48_ 11D50y",
    "11D5A_ 11D60z 11D66_ 11D67z 11D69_ 11D6Az 11D8F_ 11D90z 11D92_ 11D93z 11D99_ 11DA0z",
    "11DAA_ 11EE0z 11EF9_ 11F00K 11F11_ 11F12K 11F3B_ 11F3EK 11F5AM 11F5B_ 11FB0I 11FB1_",
    "11FC0G 11FF2_ 11FFFG 12000o 1236Fv 12399w 1239A_ 12400o 12463v 1246F_ 12470o 12474v",
    "12475_ 12480w 12544_ 12F90J 12FF3_ 13000q 1342FK 13430G 13439K 13456_ 13460M 143FB_",
    "14400w 14647_ 16100M 1613A_ 16800r 16A39_ 16A40v 16A5F_ 16A60v 16A6A_ 16A6Ev 16A70J",
    "16ABF_ 16AC0J 16ACA_ 16AD0v 16AEE_ 16AF0v 16AF6_ 16B00v 16B46_ 16B50v 16B5A_ 16B5Bv",
    "16B62_ 16B63v 16B78_ 16B7Dv 16B90_ 16D40M 16D7A_ 16E40z 16E9B_ 16F00s 16F45G 16F4B_",
    "16F4FG 16F50s 16F7FG 16F88_ 16F8Fs 16FA0_ 16FE0x 16FE1y 16FE2G 16FE4I 16FE5_ 16FF0I",
    "16FF2_ 17000x 187EDz 187F2G 187F8_ 18800x 18AF3I 18CD6_ 18CFFM 18D00I 18D09_ 1AFF0J",
    "1AFF4_ 1AFF5J 1AFFC_ 1AFFDJ 1AFFF_ 1B000r 1B002y 1B11FJ 1B123_ 1B132K 1B133_ 1B150G",
    "1B153_ 1B155K 1B156_ 1B164G 1B168_ 1B170y 1B2FC_ 1BC00v 1BC6B_ 1BC70v 1BC7D_ 1BC80v",
    "1BC89_ 1BC90v 1BC9A_ 1BC9Cv 1BCA4_ 1CC00M 1CCFA_ 1CD00M 1CEB4_ 1CF00J 1CF2E_ 1CF30J",
    "1CF47_ 1CF50J 1CFC4_ 1D000k 1D0F6_ 1D100k 1D127_ 1D129p 1D12Ak 1D1DEw 1D1E9J 1D1EB_",
    "1D200n 1D246_ 1D2C0K 1D2D4_ 1D2E0z 1D2F4_ 1D300m 1D357_ 1D360o 1D372z 1D379_ 1D400k",
    "1D455_ 1D456k 1D49D_ 1D49Ek 1D4A0_ 1D4A2k 1D4A3_ 1D4A5k 1D4A7_ 1D4A9k 1D4AD_ 1D4AEk",
    "1D4BA_ 1D4BBk 1D4BC_ 1D4BDk 1D4C1m 1D4C2k 1D4C4_ 1D4C5k 1D506_ 1D507k 1D50B_ 1D50Dk",
    "1D515_ 1D516k 1D51D_ 1D51Ek 1D53A_ 1D53Bk 1D53F_ 1D540k 1D545_ 1D546k 1D547_ 1D54Ak",
    "1D551_ 1D552k 1D6A4n 1D6A6_ 1D6A8k 1D7CAo 1D7CC_ 1D7CEk 1D800w 1DA8C_ 1DA9Bw 1DAA0_",
    "1DAA1w 1DAB0_ 1DF00J 1DF1F_ 1DF25K 1DF2B_ 1E000x 1E007_ 1E008x 1E019_ 1E01Bx 1E022_",
    "1E023x 1E025_ 1E026x 1E02B_ 1E030K 1E06E_ 1E08FK 1E090_ 1E100G 1E12D_ 1E130G 1E13E_",
    "1E140G 1E14A_ 1E14EG 1E150_ 1E290J 1E2AF_ 1E2C0G 1E2FA_ 1E2FFG 1E300_ 1E4D0K 1E4FA_",
    "1E5D0M 1E5FB_ 1E5FFM 1E600_ 1E7E0J 1E7E7_ 1E7E8J 1E7EC_ 1E7EDJ 1E7EF_ 1E7F0J 1E7FF_",
    "1E800v 1E8C5_ 1E8C7v 1E8D7_ 1E900x 1E94BG 1E94C_ 1E950x 1E95A_ 1E95Ex 1E960_ 1EC71z",
    "1ECB5_ 1ED01G 1ED3E_ 1EE00s 1EE04_ 1EE05s 1EE20_ 1EE21s 1EE23_ 1EE24s 1EE25_ 1EE27s",
    "1EE28_ 1EE29s 1EE33_ 1EE34s 1EE38_ 1EE39s 1EE3A_ 1EE3Bs 1EE3C_ 1EE42s 1EE43_ 1EE47s",
    "1EE48_ 1EE49s 1EE4A_ 1EE4Bs 1EE4C_ 1EE4Ds 1EE50_ 1EE51s 1EE53_ 1EE54s 1EE55_ 1EE57s",
    "1EE58_ 1EE59s 1EE5A_ 1EE5Bs 1EE5C_ 1EE5Ds 1EE5E_ 1EE5Fs 1EE60_ 1EE61s 1EE63_ 1EE64s",
    "1EE65_ 1EE67s 1EE6B_ 1EE6Cs 1EE73_ 1EE74s 1EE78_ 1EE79s 1EE7D_ 1EE7Es 1EE7F_ 1EE80s",
    "1EE8A_ 1EE8Bs 1EE9C_ 1EEA1s 1EEA4_ 1EEA5s 1EEAA_ 1EEABs 1EEBC_ 1EEF0s 1EEF2_ 1F000p",
    "1F02C_ 1F030p 1F094_ 1F0A0r 1F0AF_ 1F0B1r 1F0BFv 1F0C0_ 1F0C1r 1F0D0_ 1F0D1r 1F0E0v",
    "1F0F6_ 1F100q 1F10Bv 1F10DI 1F110q 1F12Fz 1F130r 1F131q 1F132r 1F13Dq 1F13Er 1F13Fq",
    "1F140r 1F142q 1F143r 1F146q 1F147r 1F14Aq 1F14Fr 1F157q 1F158r 1F15Fq 1F160r 1F16As",
    "1F16CG 1F16DI 1F170r 1F179q 1F17Ar 1F17Bq 1F17Dr 1F17Fq 1F180r 1F18Aq 1F18Er 1F190q",
    "1F191r 1F19Bx 1F1ADI 1F1AE_ 1F1E6r 1F200q 1F201r 1F203_ 1F210q 1F232r 1F23Bx 1F23C_",
    "1F240q 1F249_ 1F250r 1F252_ 1F260y 1F266_ 1F300r 1F321v 1F32Dw 1F330r 1F336v 1F337r",
    "1F37Dv 1F37Ew 1F380r 1F394v 1F3A0r 1F3C5v 1F3C6r 1F3CBv 1F3CFw 1F3D4v 1F3E0r 1F3F1v",
    "1F3F8w 1F400r 1F43Fv 1F440r 1F441v 1F442r 1F4F8v 1F4F9r 1F4FDv 1F4FFw 1F500r 1F53Ev",
    "1F540s 1F544v 1F54Bw 1F550r 1F568v 1F57Ax 1F57Bv 1F5A4x 1F5A5v 1F5FBr 1F600s 1F601r",
    "1F611s 1F612r 1F615s 1F616r 1F617s 1F618r 1F619s 1F61Ar 1F61Bs 1F61Cr 1F61Fs 1F620r",
    "1F626s 1F628r 1F62Cs 1F62Dr 1F62Es 1F630r 1F634s 1F635r 1F641v 1F643w 1F645r 1F650v",
    "1F680r 1F6C6v 1F6D0w 1F6D1x 1F6D3y 1F6D5G 1F6D6I 1F6D8_ 1F6DCK 1F6DDJ 1F6E0v 1F6ED_",
    "1F6F0v 1F6F4x 1F6F7y 1F6F9z 1F6FAG 1F6FBI 1F6FD_ 1F700r 1F774K 1F777_ 1F77BK 1F780v",
    "1F7D5z 1F7D9K 1F7DA_ 1F7E0G 1F7EC_ 1F7F0J 1F7F1_ 1F800v 1F80C_ 1F810v 1F848_ 1F850v",
    "1F85A_ 1F860v 1F888_ 1F890v 1F8AE_ 1F8B0I 1F8B2M 1F8BC_ 1F8C0M 1F8C2_ 1F900y 1F90CI",
    "1F90DG 1F910w 1F919x 1F91Fy 1F920x 1F928y 1F930x 1F931y 1F933x 1F93FG 1F940x 1F94Cy",
    "1F94Dz 1F950x 1F95Fy 1F96Cz 1F971G 1F972I 1F973z 1F977I 1F979J 1F97Az 1F97BG 1F97Cz",
    "1F980w 1F985x 1F992y 1F998z 1F9A3I 1F9A5G 1F9ABI 1F9AEG 1F9B0z 1F9BAG 1F9C0w 1F9C1z",
    "1F9C3G 1F9CBI 1F9CCJ 1F9CDG 1F9D0y 1F9E7z 1FA00G 1FA54_ 1FA60z 1FA6E_ 1FA70G 1FA74I",
    "1FA75K 1FA78G 1FA7BJ 1FA7D_ 1FA80G 1FA83I 1FA87K 1FA89M 1FA8A_ 1FA8FM 1FA90G 1FA96I",
    "1FAA9J 1FAADK 1FAB0I 1FAB7J 1FABBK 1FABEM 1FABFK 1FAC0I 1FAC3J 1FAC6M 1FAC7_ 1FACEK",
    "1FAD0I 1FAD7J 1FADAK 1FADCM 1FADD_ 1FADFM 1FAE0J 1FAE8K 1FAE9M 1FAEA_ 1FAF0J 1FAF7K",
    "1FAF9_ 1FB00I 1FB93_ 1FB94I 1FBCBM 1FBF0I 1FBFA_ 1FFFEh 20000k 2A6D7I 2A6DEJ 2A6E0_",
    "2A700q 2B735J 2B739K 2B73A_ 2B740r 2B81E_ 2B820w 2CEA2_ 2CEB0y 2EBE1_ 2EBF0L 2EE5E_",
    "2F800k 2FA1E_ 2FFFEh 30000I 3134B_ 31350K 323B0_ 3FFFEh 40000_ 4FFFEh 50000_ 5FFFEh",
    "60000_ 6FFFEh 70000_ 7FFFEh 80000_ 8FFFEh 90000_ 9FFFEh A0000_ AFFFEh B0000_ BFFFEh",
    "C0000_ CFFFEh D0000_ DFFFEh E0000_ E0001k E0002_ E0020k E0080_ E0100m E01F0_ EFFFEh"]

/-- The characters that there were at a version. -/
def upTo (index : Nat) : CharSet :=
  let early := labels.take (index + 1)
  ofLabelled (labelled 1 table) fun label => label.toList.all early.contains

/-- The name of a version without a point, after a letter. -/
def shortName (version : String) : String :=
  String.ofList ('v' :: version.toList.filter (· ≠ '.'))

/-- The characters that there were at a version by its name. -/
def ofName? (name : String) : Option CharSet :=
  (versions.findIdx? fun version => version = name || shortName version = name).map upTo

end Criteria.CharSet.Age
